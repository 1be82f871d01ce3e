import FlowchartLayout.Proofs.Source.Ids
import FlowchartLayout.Proofs.Source.Keywords

/-!
# Subgraphs without id and title

A subgraph without id and title is named by its number, and numbers do not repeat. But the name may
be one that an earlier line has given to another subgraph, by an id or by a title. The line then
opens that subgraph again, and there is no new one.

## Main definitions

- `Draft.Registers` — there is one more subgraph, with a new id, and it is the innermost open one
- `NamesSubgraph` — a line names a subgraph, by an id or by a title

## Main statements

- `anonymous_readLines` — the number of subgraphs without id and title
- `readLine_anonymousHeading` — when the line of such a subgraph makes a new one
- `not_registers_takenSource` — it does not always do so
-/

namespace FlowchartLayout.Source

theorem toString_injective {m n : Nat} (h : toString m = toString n) : m = n := by
  rw [Nat.toString_eq_ofList_toDigits, Nat.toString_eq_ofList_toDigits, String.ofList_inj] at h
  rw [← Nat.ofDigitChars_ten_toDigits (n := m), h, Nat.ofDigitChars_ten_toDigits]

/-- The id of a subgraph without id and title. -/
def numberedId (n : Nat) : String :=
  "subgraph" ++ toString n

theorem numberedId_injective {m n : Nat} (h : numberedId m = numberedId n) : m = n :=
  toString_injective ((String.append_right_inj _).1 h)

/-! ## Numbers -/

def Statement.isAnonymous : Statement → Bool
  | .anonymousSubgraph => true
  | _ => false

theorem Statement.isAnonymous_iff {s : Statement} :
    s.isAnonymous = true ↔ s = .anonymousSubgraph := by
  cases s <;> simp [isAnonymous]

instance : DecidablePred IsAnonymousHeading := fun line =>
  decidable_of_iff ((Statement.ofLine line).isAnonymous = true)
    (Statement.isAnonymous_iff.trans ofLine_eq_anonymousSubgraph_iff)

/-- The id of the next subgraph without id and title, after the lines. -/
def nextNumberedId (lines : List (List Char)) : String :=
  numberedId (lines.countP (fun line => decide (IsAnonymousHeading line)) + 1)

/-- Some line names a subgraph so, by an id or by a title. -/
def NamesSubgraph (lines : List (List Char)) (id : String) : Prop :=
  ∃ line ∈ lines, ∃ title, Statement.ofLine line = .subgraph id title

namespace Draft

variable {d : Draft} {id : String} {lines : List (List Char)}

theorem anonymous_openSubgraph (d : Draft) (id title : String) :
    (d.openSubgraph id title).anonymous = d.anonymous := by
  unfold openSubgraph
  split <;> rfl

theorem anonymous_mention (d : Draft) (id : String) :
    (d.mention id).anonymous = d.anonymous := by
  rcases mention_cases d id with ⟨i, h, -⟩ | ⟨h, -⟩ | ⟨h, -⟩ <;> rw [h]

theorem anonymous_introduce (d : Draft) (m : Mention) :
    (d.introduce m).anonymous = d.anonymous := by
  rcases introduce_cases d m with ⟨-, h⟩ | ⟨definition, -, h⟩
  · rw [h, anonymous_mention]
  · rcases define_cases d m.id definition with hdefine | ⟨i, label, hdefine⟩ <;>
      rw [h, hdefine] <;> exact anonymous_mention d m.id

theorem anonymous_introductions (d : Draft) (ms : List Mention) :
    (ms.foldl introduce d).anonymous = d.anonymous := by
  induction ms generalizing d with
  | nil => rfl
  | cons m ms ih => rw [List.foldl_cons, ih, anonymous_introduce]

theorem anonymous_apply (d : Draft) {s : Statement} (hs : s.HasTargets) :
    (d.apply s).anonymous = d.anonymous + if s.isAnonymous then 1 else 0 := by
  cases s with
  | anonymousSubgraph => exact anonymous_openSubgraph _ _ _
  | subgraph id title => exact anonymous_openSubgraph d id title
  | chain first hops =>
    have hunlinked := congrArg (·.anonymous) (unlinked_apply_chain d hs)
    exact hunlinked.trans (anonymous_introductions d _)
  | direction direction =>
    rw [apply, setDirection]
    split <;> rfl
  | _ => rfl

/-- Subgraphs without id and title are counted. -/
theorem anonymous_readLines (d : Draft) (lines : List (List Char)) :
    (lines.foldl Draft.readLine d).anonymous =
      d.anonymous + lines.countP fun line => decide (IsAnonymousHeading line) := by
  induction lines generalizing d with
  | nil => rfl
  | cons line lines ih =>
    have hline : (Statement.ofLine line).isAnonymous = decide (IsAnonymousHeading line) := by
      rw [Bool.eq_iff_iff, decide_eq_true_eq, Statement.isAnonymous_iff,
        ofLine_eq_anonymousSubgraph_iff]
    rw [List.foldl_cons, ih, readLine, anonymous_apply d (hasTargets_ofLine line),
      List.countP_cons, Nat.add_assoc, Nat.add_comm (List.countP _ _), hline]


/-- No earlier subgraph without id and title has the next number. -/
theorem opens_nextNumberedId_iff (direction : Direction) (lines : List (List Char)) :
    (start direction).Opens lines (nextNumberedId lines) ↔
      NamesSubgraph lines (nextNumberedId lines) := by
  constructor
  · rintro ⟨before, line, after, rfl, hopens⟩
    cases hline : Statement.ofLine line with
    | subgraph id title =>
      rw [hline, opened?, Option.some_inj] at hopens
      exact ⟨line, by simp, title, by rw [hline, hopens]⟩
    | anonymousSubgraph =>
      -- the number of the earlier one is smaller
      rw [hline, opened?, Option.some_inj, anonymous_readLines] at hopens
      have hnumber := numberedId_injective hopens
      rw [List.countP_append, List.countP_cons_of_pos] at hnumber
      · simp only [start] at hnumber
        omega
      · exact decide_eq_true (ofLine_eq_anonymousSubgraph_iff.1 hline)
    | _ =>
      rw [hline] at hopens
      cases hopens
  · rintro ⟨line, hmem, title, hline⟩
    obtain ⟨before, after, hlines⟩ := List.append_of_mem hmem
    exact ⟨before, line, after, hlines, by rw [hline, opened?]⟩

/-- There is one more subgraph than before. Its id is new, and it is the innermost open one. -/
def Registers (d d' : Draft) : Prop :=
  ∃ s, d'.flowchart.subgraphs = d.flowchart.subgraphs ++ [s] ∧ s.id ∉ d.flowchart.subgraphIds ∧
    d'.openSubgraphs = d.flowchart.subgraphs.length :: d.openSubgraphs

end Draft

theorem exists_subgraph_of_findSubgraphIndex? {fc : Flowchart} {id : String} {i : Nat}
    (h : fc.findSubgraphIndex? id = some i) : ∃ s, fc.subgraphs[i]? = some s ∧ s.id = id := by
  obtain ⟨hi, hid, -⟩ := List.findIdx?_eq_some_iff_getElem.1 h
  exact ⟨fc.subgraphs[i], List.getElem?_eq_getElem hi, beq_iff_eq.1 hid⟩

/-! ## Lines -/

/-- The line of a subgraph without id and title, whatever lines were read before it. It makes a new
subgraph just if no earlier line names a subgraph by the next number; otherwise it leaves the
flowchart as it is, and opens the subgraph with that name again. -/
theorem readLine_anonymousHeading (direction : Direction) (lines : List (List Char))
    {line : List Char} (hline : IsAnonymousHeading line) :
    let d := lines.foldl Draft.readLine (Draft.start direction)
    let d' := d.readLine line
    let id := nextNumberedId lines
    (d.Registers d' ↔ ¬ NamesSubgraph lines id) ∧
    (¬ NamesSubgraph lines id →
      d'.flowchart = d.flowchart.addSubgraph { id, title := id, parent := d.scope }) ∧
    (NamesSubgraph lines id → d'.flowchart = d.flowchart ∧
      ∃ i s, d.flowchart.subgraphs[i]? = some s ∧ s.id = id ∧
        d'.openSubgraphs = i :: d.openSubgraphs) := by
  intro d d' id
  have hids : id ∈ d.flowchart.subgraphIds ↔ NamesSubgraph lines id := by
    rw [← Draft.opens_nextNumberedId_iff direction lines, Draft.mem_subgraphIds_readLines,
      or_iff_right]
    exact List.not_mem_nil
  have hcount : d.anonymous = lines.countP fun line => decide (IsAnonymousHeading line) := by
    rw [Draft.anonymous_readLines, Draft.start, Nat.zero_add]
  have hopen : d' = Draft.openSubgraph { d with anonymous := d.anonymous + 1 } id id := by
    have hstatement : d' = d.openAnonymous := by
      show d.apply (.ofLine line) = _
      rw [ofLine_eq_anonymousSubgraph_iff.2 hline, Draft.apply]
    rw [hstatement, Draft.openAnonymous, hcount]
    rfl
  unfold Draft.openSubgraph at hopen
  split at hopen
  · next i hi =>
    obtain ⟨s, hs, hid⟩ := exists_subgraph_of_findSubgraphIndex? hi
    have hmem : id ∈ d.flowchart.subgraphIds := hid ▸ List.mem_map_of_mem (List.mem_of_getElem? hs)
    refine ⟨iff_of_false ?_ (not_not.2 (hids.1 hmem)), fun h => absurd (hids.1 hmem) h,
      fun _ => ⟨by rw [hopen], i, s, hs, hid, by rw [hopen]⟩⟩
    rintro ⟨s, hsubgraphs, -⟩
    rw [hopen] at hsubgraphs
    have hlength := congrArg List.length hsubgraphs
    rw [List.length_append, List.length_singleton] at hlength
    exact absurd hlength (Nat.lt_succ_self _).ne
  · next hnone =>
    have hnot : id ∉ d.flowchart.subgraphIds := Flowchart.findSubgraphIndex?_eq_none_iff.1 hnone
    have hnew : ¬ NamesSubgraph lines id := fun h => hnot (hids.2 h)
    have hrecord : d'.flowchart = d.flowchart.addSubgraph { id, title := id, parent := d.scope } := by
      rw [hopen]
      rfl
    refine ⟨iff_of_true ⟨{ id, title := id, parent := d.scope }, ?_, hnot, ?_⟩ hnew,
      fun _ => hrecord, fun h => absurd h hnew⟩
    · rw [hrecord]
      rfl
    · rw [hopen]

/-! ## Two subgraphs without id and title, and one that has taken their name -/

/-- The second line has the next number. -/
theorem readLine_secondHeading :
    let lines := ["subgraph sub".toList, "SUBGRAPH ;".toList, "A".toList]
    IsAnonymousHeading "subgraph".toList ∧
      Draft.Registers (lines.foldl Draft.readLine (Draft.start .topToBottom))
        ((lines.foldl Draft.readLine (Draft.start .topToBottom)).readLine "subgraph".toList) ∧
      nextNumberedId lines = "subgraph2" := by
  intro lines
  have hline : IsAnonymousHeading "subgraph".toList := by decide +kernel
  have hnext : nextNumberedId lines = "subgraph2" := by decide +kernel
  have hopened : ∀ line ∈ lines,
      (Draft.start .topToBottom).opened? (.ofLine line) ≠ some "subgraph2" := by
    decide +kernel
  refine ⟨hline, (readLine_anonymousHeading .topToBottom lines hline).1.2 ?_, hnext⟩
  rintro ⟨line, hmem, title, hnames⟩
  refine hopened line hmem ?_
  rw [hnames, hnext, Draft.opened?]

def takenSource : String :=
  "flowchart TB\nsubgraph subgraph1\nA\nend\nsubgraph\nB\nend"

/-- A line without id and title need not make a new subgraph. -/
theorem not_registers_takenSource :
    ¬ ∀ (source : String) (direction : Direction) (body : List Char)
      (before : List (List Char)) (line : List Char) (after : List (List Char)),
      readHeader? source.toList = some (direction, body) →
      contentLines body = before ++ line :: after → IsAnonymousHeading line →
        Draft.Registers (before.foldl Draft.readLine (Draft.start direction))
          ((before.foldl Draft.readLine (Draft.start direction)).readLine line) := by
  intro h
  have hsource : readHeader? takenSource.toList =
      some (.topToBottom, "\nsubgraph subgraph1\nA\nend\nsubgraph\nB\nend".toList) := by
    decide +kernel
  have hlines : contentLines "\nsubgraph subgraph1\nA\nend\nsubgraph\nB\nend".toList =
      ["subgraph subgraph1".toList, "A".toList, "end".toList] ++
        "subgraph".toList :: ["B".toList, "end".toList] := by
    decide +kernel
  obtain ⟨s, hsubgraphs, -⟩ := h _ _ _ _ _ _ hsource hlines (by decide +kernel)
  have hlength : ((["subgraph subgraph1".toList, "A".toList, "end".toList].foldl Draft.readLine
      (Draft.start .topToBottom)).readLine "subgraph".toList).flowchart.subgraphs.length = 1 := by
    decide +kernel
  have hbefore : (["subgraph subgraph1".toList, "A".toList, "end".toList].foldl Draft.readLine
      (Draft.start .topToBottom)).flowchart.subgraphs.length = 1 := by
    decide +kernel
  rw [hsubgraphs, List.length_append, hbefore] at hlength
  cases hlength

end FlowchartLayout.Source

import FlowchartLayout.Proofs.Flowchart.WellFormed
import FlowchartLayout.Proofs.Source.Keywords
import FlowchartLayout.Source.Draft

/-!
# Well-formed drafts

While a source text is read line by line, its flowchart is well-formed after every line. Completion
at the end of the text is therefore never needed.

## Main definitions

- `Draft.WellFormed` — the flowchart is well-formed, and open subgraphs are there
- `Draft.Knows` — an id belongs to a node or a subgraph
- `Statement.HasTargets` — every link of a statement leads somewhere

## Main statements

- `Draft.WellFormed.apply` — statements keep drafts well-formed
- `wellFormed_of_prefix` — drafts are well-formed after every line of a source text
-/

namespace FlowchartLayout.Source

/-! ## Links lead somewhere -/

/-- Every link of the statement has a target. -/
def Statement.HasTargets : Statement → Prop
  | .chain _ hops => ∀ hop ∈ hops, hop.targets ≠ []
  | _ => True

theorem targets_ne_nil_of_mem_readHops {s : List Char} {hop : Hop} (h : hop ∈ readHops s) :
    hop.targets ≠ [] := by
  fun_induction readHops s with
  | case1 => cases h
  | case2 => cases h
  | case3 s link rest _ targets hne ih =>
    rcases List.mem_cons.1 h with rfl | h
    · simpa only [List.isEmpty_iff] using hne
    · exact ih h

theorem hasTargets_readChain (id s : List Char) : (readChain id s).HasTargets := by
  unfold readChain
  simp only
  split
  · split
    · exact fun _ => targets_ne_nil_of_mem_readHops
    · trivial
  · split
    · exact fun _ => targets_ne_nil_of_mem_readHops
    · split
      all_goals first | exact fun _ h => absurd h List.not_mem_nil | trivial

theorem hasTargets_readHeading (s : List Char) : (readHeading s).HasTargets := by
  unfold readHeading
  simp only
  split <;> trivial

theorem hasTargets_ofLine (line : List Char) : (Statement.ofLine line).HasTargets := by
  cases saidBy_ofLine line with
  | heading _ h => exact h ▸ hasTargets_readHeading _
  | chain _ h => exact h ▸ hasTargets_readChain _ _
  | blank h => exact h ▸ trivial
  | endSubgraph h => exact h ▸ trivial
  | style _ h => exact h ▸ trivial
  | direction _ h => exact h ▸ trivial

namespace Draft

variable {d : Draft}

/-- The flowchart is well-formed, and every open subgraph is one of its subgraphs. -/
structure WellFormed (d : Draft) : Prop where
  flowchart : d.flowchart.WellFormed
  open_lt : ∀ i ∈ d.openSubgraphs, i < d.flowchart.subgraphs.length

/-- The id belongs to a node or a subgraph. -/
def Knows (d : Draft) (id : String) : Prop :=
  d.flowchart.containsId id = true

theorem knows_iff {id : String} :
    d.Knows id ↔ id ∈ d.flowchart.nodeIds ∨ id ∈ d.flowchart.subgraphIds :=
  Flowchart.containsId_iff

/-- The innermost open subgraph is a subgraph. -/
theorem mem_subgraphIds_of_scope {id : String} (h : d.scope = some id) :
    id ∈ d.flowchart.subgraphIds := by
  obtain ⟨s, hs, rfl⟩ := Option.map_eq_some_iff.1 h
  obtain ⟨i, -, hi⟩ := Option.bind_eq_some_iff.1 hs
  exact List.mem_map_of_mem (List.mem_of_getElem? hi)

/-! ## Mentions and definitions -/

theorem Knows.foldl {α : Type} {step : Draft → α → Draft} {x : String}
    (hstep : ∀ (d : Draft) (a : α), d.Knows x → (step d a).Knows x) (h : d.Knows x)
    (as : List α) : (as.foldl step d).Knows x := by
  induction as generalizing d with
  | nil => exact h
  | cons a as ih => exact ih (hstep d a h)

/-- What a mention does: it moves a node, adds one, or does nothing. -/
theorem mention_cases (d : Draft) (id : String) :
    (∃ i, d.mention id =
      { d with flowchart := d.flowchart.modifyNode i ({ · with subgraph := d.scope }) } ∧
        d.Knows id) ∨
    (d.mention id = d ∧ d.Knows id) ∨
    (d.mention id =
      { d with flowchart := d.flowchart.addNode { Node.implicit id with subgraph := d.scope } } ∧
        id ∉ d.flowchart.nodeIds) := by
  unfold mention
  split
  · next i hi =>
    have hknown : d.Knows id := by
      rw [knows_iff]
      by_contra hnot
      rw [Flowchart.findNodeIndex?_eq_none_iff.2 fun hmem => hnot (.inl hmem)] at hi
      cases hi
    split
    · exact .inl ⟨i, rfl, hknown⟩
    · exact .inr (.inl ⟨rfl, hknown⟩)
  · next hnone =>
    split
    · next hsome =>
      exact .inr (.inl ⟨rfl, knows_iff.2 (.inr (Flowchart.findSubgraph?_isSome_iff.1 hsome))⟩)
    · exact .inr (.inr ⟨rfl, Flowchart.findNodeIndex?_eq_none_iff.1 hnone⟩)

theorem openSubgraphs_mention (d : Draft) (id : String) :
    (d.mention id).openSubgraphs = d.openSubgraphs := by
  rcases mention_cases d id with ⟨i, h, -⟩ | ⟨h, -⟩ | ⟨h, -⟩ <;> rw [h]

theorem subgraphs_mention (d : Draft) (id : String) :
    (d.mention id).flowchart.subgraphs = d.flowchart.subgraphs := by
  rcases mention_cases d id with ⟨i, h, -⟩ | ⟨h, -⟩ | ⟨h, -⟩ <;> rw [h] <;> rfl

theorem WellFormed.mention (h : d.WellFormed) (id : String) : (d.mention id).WellFormed where
  flowchart := by
    rcases mention_cases d id with ⟨i, heq, -⟩ | ⟨heq, -⟩ | ⟨heq, hnew⟩
    · rw [heq]
      exact h.flowchart.modifyNode i (fun _ => rfl)
        fun _ _ hscope => .inr (mem_subgraphIds_of_scope hscope)
    · rw [heq]
      exact h.flowchart
    · rw [heq]
      exact h.flowchart.addNode hnew fun _ hscope => mem_subgraphIds_of_scope hscope
  open_lt := by
    rw [openSubgraphs_mention, subgraphs_mention]
    exact h.open_lt

theorem Knows.mention {x : String} (h : d.Knows x) (id : String) : (d.mention id).Knows x := by
  rcases mention_cases d id with ⟨i, heq, -⟩ | ⟨heq, -⟩ | ⟨heq, -⟩
  · rw [heq]
    refine (Flowchart.containsId_modifyNode ?_ i x).trans h
    exact fun _ => rfl
  · rwa [heq]
  · rw [heq, knows_iff, Flowchart.nodeIds_addNode]
    exact (knows_iff.1 h).imp_left (List.mem_append_left _)

theorem knows_mention (d : Draft) (id : String) : (d.mention id).Knows id := by
  rcases mention_cases d id with ⟨i, -, hknown⟩ | ⟨-, hknown⟩ | ⟨heq, -⟩
  · exact hknown.mention id
  · exact hknown.mention id
  · rw [heq, knows_iff, Flowchart.nodeIds_addNode]
    exact .inl (List.mem_append_right _ List.mem_cons_self)

/-- What a definition does to a mentioned node: it changes its shape and its label, or nothing. -/
theorem define_cases (d : Draft) (id : String) (definition : NodeShape) :
    d.define id definition = d.mention id ∨ ∃ i label, d.define id definition =
      { d.mention id with
        flowchart := (d.mention id).flowchart.modifyNode i
          ({ · with shape := definition.shape, label })
        defined := id :: (d.mention id).defined } := by
  unfold define
  simp only
  split
  · exact .inl rfl
  · next i _ =>
    split
    · exact .inl rfl
    · exact .inr ⟨i, _, rfl⟩

theorem WellFormed.define (h : d.WellFormed) (id : String) (definition : NodeShape) :
    (d.define id definition).WellFormed := by
  have hmention := h.mention id
  rcases define_cases d id definition with heq | ⟨i, label, heq⟩
  · rwa [heq]
  · rw [heq]
    refine ⟨?_, hmention.open_lt⟩
    exact hmention.flowchart.modifyNode i (fun _ => rfl) fun _ _ hholder => .inl hholder

theorem knows_define_iff {x id : String} {definition : NodeShape} :
    (d.define id definition).Knows x ↔ (d.mention id).Knows x := by
  rcases define_cases d id definition with heq | ⟨i, label, heq⟩
  · rw [heq]
  · rw [heq]
    refine Eq.congr_left (Flowchart.containsId_modifyNode ?_ i x)
    exact fun _ => rfl

theorem Knows.define {x : String} (h : d.Knows x) (id : String) (definition : NodeShape) :
    (d.define id definition).Knows x :=
  knows_define_iff.2 (h.mention id)

theorem knows_define (d : Draft) (id : String) (definition : NodeShape) :
    (d.define id definition).Knows id :=
  knows_define_iff.2 (knows_mention d id)

/-! ## Edges -/

theorem WellFormed.connect (h : d.WellFormed) (link : Link) {source : String}
    (hsource : d.Knows source) (target : String) : (d.connect link source target).WellFormed where
  flowchart := (h.mention target).flowchart.addEdge (hsource.mention target)
    (knows_mention d target)
  open_lt := (h.mention target).open_lt

theorem Knows.connect {x : String} (h : d.Knows x) (link : Link) (source target : String) :
    (d.connect link source target).Knows x :=
  h.mention target

theorem knows_connect (d : Draft) (link : Link) (source target : String) :
    (d.connect link source target).Knows target :=
  knows_mention d target

/-- The draft with all sources connected to one target. -/
def connectSources (d : Draft) (link : Link) (sources : List String) (target : String) : Draft :=
  sources.foldl (fun d source => d.connect link source target) d

theorem WellFormed.connectSources (h : d.WellFormed) (link : Link) {sources : List String}
    (hsources : ∀ source ∈ sources, d.Knows source) (target : String) :
    (d.connectSources link sources target).WellFormed := by
  induction sources generalizing d with
  | nil => exact h
  | cons source sources ih =>
    obtain ⟨hsource, hsources⟩ := List.forall_mem_cons.1 hsources
    -- the other sources stay known while the first one is connected
    exact ih (h.connect link hsource target)
      fun x hx => (hsources x hx).connect link source target

theorem Knows.connectSources {x : String} (h : d.Knows x) (link : Link) (sources : List String)
    (target : String) : (d.connectSources link sources target).Knows x :=
  h.foldl (fun _ source h => h.connect link source target) sources

/-- A target is known once there is a source to connect it to. -/
theorem knows_connectSources (d : Draft) (link : Link) {sources : List String} (hne : sources ≠ [])
    (target : String) : (d.connectSources link sources target).Knows target := by
  obtain ⟨source, sources, rfl⟩ := List.exists_cons_of_ne_nil hne
  exact (knows_connect d link source target).connectSources link sources target

/-- The sources are connected first, and a definition comes after them. -/
theorem connectAll_cases (d : Draft) (link : Link) (sources : List String) (target : Mention) :
    d.connectAll link sources target = d.connectSources link sources target.id ∨
      ∃ definition, d.connectAll link sources target =
        (d.connectSources link sources target.id).define target.id definition := by
  cases hdef : target.definition with
  | none =>
    refine .inl ?_
    simp only [connectAll, hdef, connectSources]
  | some definition =>
    refine .inr ⟨definition, ?_⟩
    simp only [connectAll, hdef, connectSources]

theorem WellFormed.connectAll (h : d.WellFormed) (link : Link) {sources : List String}
    (hsources : ∀ source ∈ sources, d.Knows source) (target : Mention) :
    (d.connectAll link sources target).WellFormed := by
  have hconnected := h.connectSources link hsources target.id
  rcases connectAll_cases d link sources target with heq | ⟨definition, heq⟩
  · rwa [heq]
  · rw [heq]
    exact hconnected.define target.id definition

theorem Knows.connectAll {x : String} (h : d.Knows x) (link : Link) (sources : List String)
    (target : Mention) : (d.connectAll link sources target).Knows x := by
  have hconnected := h.connectSources link sources target.id
  rcases connectAll_cases d link sources target with heq | ⟨definition, heq⟩
  · rwa [heq]
  · rw [heq]
    exact hconnected.define target.id definition

theorem knows_connectAll (d : Draft) (link : Link) {sources : List String} (hne : sources ≠ [])
    (target : Mention) : (d.connectAll link sources target).Knows target.id := by
  have hconnected := knows_connectSources d link hne target.id
  rcases connectAll_cases d link sources target with heq | ⟨definition, heq⟩
  · rwa [heq]
  · rw [heq]
    exact hconnected.define target.id definition

/-- After a hop the draft is well-formed, and knows the targets, from which the next hop starts. -/
theorem WellFormed.connectTargets (h : d.WellFormed) (link : Link) {sources : List String}
    (hne : sources ≠ []) (hsources : ∀ source ∈ sources, d.Knows source)
    (targets : List Mention) :
    (targets.foldl (fun d target => d.connectAll link sources target) d).WellFormed ∧
      ∀ id ∈ targets.map (·.id),
        (targets.foldl (fun d target => d.connectAll link sources target) d).Knows id := by
  induction targets generalizing d with
  | nil => exact ⟨h, fun _ hid => absurd hid List.not_mem_nil⟩
  | cons target targets ih =>
    have hstep := ih (h.connectAll link hsources target)
      fun x hx => (hsources x hx).connectAll link sources target
    refine ⟨hstep.1, fun id hid => ?_⟩
    rcases List.mem_cons.1 hid with rfl | hid
    · exact (knows_connectAll d link hne target).foldl
        (fun _ target h => h.connectAll link sources target) targets
    · exact hstep.2 id hid

theorem WellFormed.follow (h : d.WellFormed) {sources : List String} (hne : sources ≠ [])
    (hsources : ∀ source ∈ sources, d.Knows source) {hops : List Hop}
    (hhops : ∀ hop ∈ hops, hop.targets ≠ []) : (d.follow sources hops).WellFormed := by
  induction hops generalizing d sources with
  | nil => exact h
  | cons hop hops ih =>
    obtain ⟨hhop, hhops⟩ := List.forall_mem_cons.1 hhops
    -- the targets are the sources of the next hop
    obtain ⟨hwf, hknows⟩ := h.connectTargets hop.link hne hsources hop.targets
    exact ih hwf (fun hnil => hhop (List.map_eq_nil_iff.1 hnil)) hknows hhops

/-! ## Subgraphs -/

theorem WellFormed.openSubgraph (h : d.WellFormed) (id title : String) :
    (d.openSubgraph id title).WellFormed := by
  unfold Draft.openSubgraph
  split
  · next i hi =>
    refine ⟨h.flowchart, List.forall_mem_cons.2 ⟨?_, h.open_lt⟩⟩
    exact Flowchart.lt_length_of_findSubgraphIndex? hi
  · next hnone =>
    have hlength : ∀ s : Subgraph, (d.flowchart.addSubgraph s).subgraphs.length =
        d.flowchart.subgraphs.length + 1 := fun s => List.length_append
    refine ⟨?_, List.forall_mem_cons.2 ⟨?_, fun i hi => ?_⟩⟩
    · exact h.flowchart.addSubgraph (Flowchart.findSubgraphIndex?_eq_none_iff.1 hnone)
        fun _ hscope => mem_subgraphIds_of_scope hscope
    · rw [hlength]
      exact Nat.lt_succ_self _
    · rw [hlength]
      exact Nat.lt_succ_of_lt (h.open_lt i hi)

theorem WellFormed.openAnonymous (h : d.WellFormed) : d.openAnonymous.WellFormed := by
  have hcounted : WellFormed { d with anonymous := d.anonymous + 1 } := ⟨h.flowchart, h.open_lt⟩
  exact hcounted.openSubgraph _ _

theorem WellFormed.closeSubgraph (h : d.WellFormed) : d.closeSubgraph.WellFormed :=
  ⟨h.flowchart, fun i hi => h.open_lt i (List.mem_of_mem_tail hi)⟩

theorem WellFormed.setDirection (h : d.WellFormed) (direction : Direction) :
    (d.setDirection direction).WellFormed := by
  unfold Draft.setDirection
  split
  · exact h
  · next i _ _ =>
    refine ⟨h.flowchart.modifySubgraph i (fun _ => rfl) fun _ => rfl, fun j hj => ?_⟩
    show j < (d.flowchart.subgraphs.modify i _).length
    rw [List.length_modify]
    exact h.open_lt j hj

/-! ## Statements and lines -/

theorem wellFormed_start (direction : Direction) : (start direction).WellFormed where
  flowchart := Flowchart.wellFormed_empty direction
  open_lt := by
    intro i hi
    cases hi

theorem WellFormed.style (h : d.WellFormed) (id : String) (style : NodeStyle) :
    Draft.WellFormed { d with flowchart := d.flowchart.styleNode id style } where
  flowchart := h.flowchart.styleNode id style
  open_lt := by
    intro i hi
    show i < (d.flowchart.styleNode id style).subgraphs.length
    rw [Flowchart.subgraphs_styleNode]
    exact h.open_lt i hi

theorem WellFormed.apply (h : d.WellFormed) {s : Statement} (hs : s.HasTargets) :
    (d.apply s).WellFormed := by
  cases s with
  | subgraph id title => exact h.openSubgraph id title
  | anonymousSubgraph => exact h.openAnonymous
  | endSubgraph => exact h.closeSubgraph
  | direction direction => exact h.setDirection direction
  | style id style => exact h.style id style
  | blank => exact h
  | chain first hops =>
    -- the first node is known before the links are followed
    cases hdef : first.definition with
    | some definition =>
      simp only [Draft.apply, hdef]
      refine (h.define first.id definition).follow (List.cons_ne_nil _ _) (fun x hx => ?_) hs
      rw [List.mem_singleton.1 hx]
      exact knows_define d first.id definition
    | none =>
      simp only [Draft.apply, hdef]
      refine (h.mention first.id).follow (List.cons_ne_nil _ _) (fun x hx => ?_) hs
      rw [List.mem_singleton.1 hx]
      exact knows_mention d first.id

theorem WellFormed.readLine (h : d.WellFormed) (line : List Char) : (d.readLine line).WellFormed :=
  h.apply (hasTargets_ofLine line)

theorem WellFormed.readLines (h : d.WellFormed) (lines : List (List Char)) :
    (lines.foldl Draft.readLine d).WellFormed :=
  List.foldlRecOn lines _ h fun _ h line _ => h.readLine line

theorem WellFormed.finish_eq (h : d.WellFormed) : d.finish = d.flowchart :=
  h.flowchart.complete_eq

end Draft

/-- A source text with a header is what its lines make of a new draft. -/
theorem ofSource?_eq_readLines {source : String} {direction : Direction} {body : List Char}
    (hsource : readHeader? source.toList = some (direction, body)) :
    Flowchart.ofSource? source =
      some ((contentLines body).foldl Draft.readLine (Draft.start direction)).flowchart := by
  rw [Flowchart.ofSource?, hsource, Option.map_some]
  exact congrArg some ((Draft.wellFormed_start direction).readLines (contentLines body)).finish_eq

/-- The flowchart of a source text is well-formed. -/
theorem wellFormed_of_ofSource? {source : String} {fc : Flowchart}
    (h : Flowchart.ofSource? source = some fc) : fc.WellFormed := by
  obtain ⟨⟨direction, body⟩, hsource, -⟩ := Option.map_eq_some_iff.1 h
  rw [ofSource?_eq_readLines hsource] at h
  rw [← Option.some.inj h]
  exact ((Draft.wellFormed_start direction).readLines (contentLines body)).flowchart

/-- While a source text with a header is read, the draft is well-formed after any number of lines:
ids are distinct, names belong to records, subgraphs form a forest and follow their parents, and
there is no layout. Completion then changes nothing, neither there nor at the end. -/
theorem wellFormed_of_prefix {source : String} {direction : Direction} {body : List Char}
    (hsource : readHeader? source.toList = some (direction, body)) :
    (∀ lines, lines <+: contentLines body →
      (lines.foldl Draft.readLine (Draft.start direction)).WellFormed ∧
      (lines.foldl Draft.readLine (Draft.start direction)).flowchart.IsForest ∧
      (lines.foldl Draft.readLine (Draft.start direction)).finish =
        (lines.foldl Draft.readLine (Draft.start direction)).flowchart) ∧
    Flowchart.ofSource? source =
      some ((contentLines body).foldl Draft.readLine (Draft.start direction)).flowchart := by
  have hwf (lines : List (List Char)) :
      (lines.foldl Draft.readLine (Draft.start direction)).WellFormed :=
    (Draft.wellFormed_start direction).readLines lines
  refine ⟨fun lines _ => ⟨hwf lines, (hwf lines).flowchart.isForest, (hwf lines).finish_eq⟩, ?_⟩
  rw [Flowchart.ofSource?, hsource, Option.map_some]
  exact congrArg some (hwf (contentLines body)).finish_eq

/-! ## A subgraph within another that is never closed -/

def nestedBody : String :=
  "\nsubgraph S\nA --> B & T\nsubgraph T\nB -- x --> C\nend\nC ==> A"

theorem readHeader?_nestedBody :
    readHeader? ("flowchart LR" ++ nestedBody).toList =
      some (.leftToRight, nestedBody.toList) := by
  decide +kernel

/-- The draft in the middle of the text, with two open subgraphs, and the flowchart at its end. -/
theorem wellFormed_nestedBody :
    readHeader? ("flowchart LR" ++ nestedBody).toList = some (.leftToRight, nestedBody.toList) ∧
      (((contentLines nestedBody.toList).take 3).foldl Draft.readLine
        (Draft.start .leftToRight)).WellFormed ∧
      Flowchart.ofSource? ("flowchart LR" ++ nestedBody) =
        some ((contentLines nestedBody.toList).foldl Draft.readLine
          (Draft.start .leftToRight)).flowchart := by
  obtain ⟨hlines, hend⟩ := wellFormed_of_prefix readHeader?_nestedBody
  exact ⟨readHeader?_nestedBody, (hlines _ (List.take_prefix 3 _)).1, hend⟩

end FlowchartLayout.Source

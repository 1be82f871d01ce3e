import FlowchartLayout.Json.Value
import FlowchartLayout.Proofs.Json.Tokens

/-!
# The grammar of JSON texts

A text stands for a value if it is made of the tokens of the value, with blanks around them. Such a
text is read as the value. Conversely, a text that is read as a value to its end, and without a
problem for a reader that passes over it, stands for the value.

## Main definitions

- `Lexes` — a text that is made of tokens
- `Phrase` — the tokens of a value, and of the items and members in it
- `Spells` — a text that stands for a value
- `Context`, `Consumed` — the tokens that a reading has taken

## Main statements

- `Spells.ofText_eq` — a text is read as the value that it stands for
- `Consumed.step` — what a reading has taken after one more token
- `spells_of_ofText` — a value that is read without a problem has been written
-/

namespace FlowchartLayout.Json

/-! ## Texts of tokens -/

/-- The text is made of the tokens, with blanks around them. -/
inductive Lexes : List Token → List Char → Prop where
  | nil {gap : List Char} (hgap : ∀ c ∈ gap, isSpace c = true) : Lexes [] gap
  | cons {t : Token} {ts : List Token} {gap text rest : List Char}
      (hgap : ∀ c ∈ gap, isSpace c = true) (h : TokenText t text) (hends : EndsToken t rest)
      (hrest : Lexes ts rest) : Lexes (t :: ts) (gap ++ (text ++ rest))

theorem Lexes.tokens_eq {ts : List Token} {s : List Char} (h : Lexes ts s) : tokens s = ts := by
  induction h with
  | @nil gap hgap =>
    have hspace := tokens_space_append hgap []
    rw [List.append_nil] at hspace
    exact hspace.trans (Json.tokens_eq [])
  | cons hgap h hends _ ih => rw [tokens_space_append hgap, h.tokens_append hends, ih]

/-- What begins like a part of a number begins with no token. -/
theorem not_isProper_readToken {c : Char} (hc : c = '.' ∨ c = 'e' ∨ c = 'E') (s : List Char) :
    ¬ (readToken c s).1.IsProper := by
  rcases hc with rfl | rfl | rfl <;> exact id

theorem endsNumber_of_tokens {s : List Char} (hdigit : ∀ c ∈ s.head?, c.isDigit = false)
    (h : ∀ t ∈ tokens s, t.IsProper) : EndsNumber s := by
  cases s with
  | nil => exact nofun
  | cons c s =>
    rintro d ⟨⟩
    have hnot (hc : c = '.' ∨ c = 'e' ∨ c = 'E') : False := by
      have hspace : isSpace c = false := by rcases hc with rfl | rfl | rfl <;> rfl
      refine not_isProper_readToken hc s (h _ ?_)
      rw [tokens_cons hspace]
      exact List.mem_cons_self
    exact ⟨hdigit c rfl, fun hc => hnot (.inl hc), fun hc => hnot (.inr (.inl hc)),
      fun hc => hnot (.inr (.inr hc))⟩

/-- A text that is cut into tokens without a break is made of them. -/
theorem lexes_tokens (s : List Char) (h : ∀ t ∈ tokens s, t.IsProper) : Lexes (tokens s) s := by
  fun_induction tokens s with
  | case1 s hblank => exact .nil (List.dropWhile_eq_nil_iff.1 hblank)
  | case2 s c rest hrest ih =>
    obtain ⟨hproper, hothers⟩ := List.forall_mem_cons.1 h
    obtain ⟨⟨text, htext, htoken⟩, hdigit⟩ := isFirst_readToken hproper
    have hs : s = s.takeWhile isSpace ++ (text ++ (readToken c rest).2) := by
      rw [← htext, ← hrest, List.takeWhile_append_dropWhile]
    have hends : EndsToken (readToken c rest).1 (readToken c rest).2 := by
      cases ht : (readToken c rest).1 with
      | number n => exact endsNumber_of_tokens (hdigit n ht) hothers
      | _ => trivial
    rw [hs]
    exact .cons (fun c hc => List.mem_takeWhile_imp hc) htoken hends (ih hothers)

/-! ## Tokens of values -/

/-- A value, or the items or members in one. -/
inductive Part where
  | value (j : Json)
  | items (js : List Json)
  | members (ms : List (Literal × Json))

/-- The tokens of a value, or of the items or members in one. -/
inductive Phrase : Part → List Token → Prop where
  | null : Phrase (.value .null) [.null]
  | bool (b : Bool) : Phrase (.value (.bool b)) [.bool b]
  | number (n : Numeral) : Phrase (.value (.number n)) [.number n]
  | string (l : Literal) : Phrase (.value (.string l)) [.string l]
  | emptyArray : Phrase (.value (.array [] .closed)) [.openBracket, .closeBracket]
  | array {js : List Json} {ts : List Token} (h : Phrase (.items js) ts) :
      Phrase (.value (.array js .closed)) (.openBracket :: (ts ++ [.closeBracket]))
  | emptyObject : Phrase (.value (.object [] .closed)) [.openBrace, .closeBrace]
  | object {ms : List (Literal × Json)} {ts : List Token} (h : Phrase (.members ms) ts) :
      Phrase (.value (.object ms .closed)) (.openBrace :: (ts ++ [.closeBrace]))
  | item {j : Json} {ts : List Token} (h : Phrase (.value j) ts) : Phrase (.items [j]) ts
  | items {js : List Json} {j : Json} {ts ts' : List Token} (h : Phrase (.items js) ts)
      (hj : Phrase (.value j) ts') : Phrase (.items (js ++ [j])) (ts ++ .comma :: ts')
  | member (key : Literal) {j : Json} {ts : List Token} (h : Phrase (.value j) ts) :
      Phrase (.members [(key, j)]) (.string key :: .colon :: ts)
  | members (key : Literal) {ms : List (Literal × Json)} {j : Json} {ts ts' : List Token}
      (h : Phrase (.members ms) ts) (hj : Phrase (.value j) ts') :
      Phrase (.members (ms ++ [(key, j)])) (ts ++ .comma :: .string key :: .colon :: ts')

/-- The text stands for the value. -/
def Spells (j : Json) (s : List Char) : Prop :=
  ∃ ts, Phrase (.value j) ts ∧ Lexes ts s

/-- The value can be written. -/
def IsJson (j : Json) : Prop :=
  ∃ ts, Phrase (.value j) ts

theorem IsJson.skipProblem?_eq_none {j : Json} (h : IsJson j) : j.skipProblem? = none := by
  obtain ⟨ts, h⟩ := h
  cases h <;> rfl

/-! ## Written values are read -/

/-- How the tokens of a part are read, within anything. -/
def Part.IsRead : Part → List Token → Prop
  | .value j, ts => ∃ t rest, ts = t :: rest ∧ t ≠ .closeBracket ∧
      ∀ outer, rest.foldl Reading.step (Reading.startValue outer t) = Reading.complete j outer
  | .items js, ts => ∀ outer,
      ts.foldl Reading.step (.firstItem outer) = .afterItem js.reverse outer
  | .members ms, ts => ∀ outer,
      ts.foldl Reading.step (.firstKey outer) = .afterMember ms.reverse outer

theorem step_firstItem {t : Token} (h : t ≠ .closeBracket) (outer : List Frame) :
    Reading.step (.firstItem outer) t = Reading.startValue (.array [] :: outer) t := by
  cases t <;> first | rfl | exact absurd rfl h

theorem step_nextItem {t : Token} (h : t ≠ .closeBracket) (items : List Json)
    (outer : List Frame) :
    Reading.step (.nextItem items outer) t = Reading.startValue (.array items :: outer) t := by
  cases t <;> first | rfl | exact absurd rfl h

theorem Phrase.isRead {part : Part} {ts : List Token} (h : Phrase part ts) : part.IsRead ts := by
  -- no value begins with a closing bracket, so an item is told from the end of an array
  induction h with
  | null => exact ⟨_, _, rfl, nofun, fun _ => rfl⟩
  | bool b => exact ⟨_, _, rfl, nofun, fun _ => rfl⟩
  | number n => exact ⟨_, _, rfl, nofun, fun _ => rfl⟩
  | string l => exact ⟨_, _, rfl, nofun, fun _ => rfl⟩
  | emptyArray => exact ⟨_, _, rfl, nofun, fun _ => rfl⟩
  | emptyObject => exact ⟨_, _, rfl, nofun, fun _ => rfl⟩
  | @array js ts _ ih =>
    refine ⟨_, _, rfl, nofun, fun outer => ?_⟩
    rw [List.foldl_append]
    change List.foldl Reading.step (List.foldl Reading.step (.firstItem outer) ts) _ = _
    rw [ih outer]
    simp only [List.foldl_cons, List.foldl_nil, Reading.step, List.reverse_reverse]
  | @object ms ts _ ih =>
    refine ⟨_, _, rfl, nofun, fun outer => ?_⟩
    rw [List.foldl_append]
    change List.foldl Reading.step (List.foldl Reading.step (.firstKey outer) ts) _ = _
    rw [ih outer]
    simp only [List.foldl_cons, List.foldl_nil, Reading.step, List.reverse_reverse]
  | item _ ih =>
    obtain ⟨t, rest, rfl, hne, hread⟩ := ih
    intro outer
    rw [List.foldl_cons, step_firstItem hne, hread]
    rfl
  | items _ _ ih ihj =>
    obtain ⟨t, rest, rfl, hne, hread⟩ := ihj
    intro outer
    rw [List.foldl_append, ih outer, List.foldl_cons, List.foldl_cons]
    change List.foldl Reading.step (Reading.step (.nextItem _ outer) t) rest = _
    rw [step_nextItem hne, hread, List.reverse_append]
    rfl
  | member key _ ih =>
    obtain ⟨t, rest, rfl, hne, hread⟩ := ih
    intro outer
    rw [List.foldl_cons, List.foldl_cons, List.foldl_cons]
    exact hread _
  | members key _ _ ih ihj =>
    obtain ⟨t, rest, rfl, hne, hread⟩ := ihj
    intro outer
    rw [List.foldl_append, ih outer, List.reverse_append]
    exact hread _

/-- A text is read as the value that it stands for, and nothing follows it. -/
theorem Spells.ofText_eq {j : Json} {s : List Char} (h : Spells j s) : ofText s = (j, false) := by
  obtain ⟨ts, hphrase, hlexes⟩ := h
  obtain ⟨t, rest, rfl, -, hread⟩ := hphrase.isRead
  rw [ofText, hlexes.tokens_eq, read, List.foldl_cons]
  change (rest.foldl Reading.step (Reading.startValue [] t)).result = _
  rw [hread]
  rfl

/-! ## Read values are written -/

/-- The tokens of what stands around a place of reading, in front of that place. -/
inductive Context : List Frame → List Token → Prop where
  | nil : Context [] []
  | firstItem {outer : List Frame} {ts : List Token} (h : Context outer ts) :
      Context (.array [] :: outer) (ts ++ [.openBracket])
  | nextItem {outer : List Frame} {items : List Json} {ts ts' : List Token} (h : Context outer ts)
      (hitems : Phrase (.items items.reverse) ts') :
      Context (.array items :: outer) (ts ++ .openBracket :: (ts' ++ [.comma]))
  | firstMember (key : Literal) {outer : List Frame} {ts : List Token} (h : Context outer ts) :
      Context (.object [] key :: outer) (ts ++ [.openBrace, .string key, .colon])
  | nextMember (key : Literal) {outer : List Frame} {members : List (Literal × Json)}
      {ts ts' : List Token} (h : Context outer ts)
      (hmembers : Phrase (.members members.reverse) ts') :
      Context (.object members key :: outer)
        (ts ++ .openBrace :: (ts' ++ [.comma, .string key, .colon]))

/-- The tokens that a reading has taken, as long as no problem has been met. -/
inductive Consumed : Reading → List Token → Prop where
  | value {outer : List Frame} {ts : List Token} (h : Context outer ts) :
      Consumed (.value outer) ts
  | firstItem {outer : List Frame} {ts : List Token} (h : Context outer ts) :
      Consumed (.firstItem outer) (ts ++ [.openBracket])
  | nextItem {items : List Json} {outer : List Frame} {ts ts' : List Token} (h : Context outer ts)
      (hitems : Phrase (.items items.reverse) ts') :
      Consumed (.nextItem items outer) (ts ++ .openBracket :: (ts' ++ [.comma]))
  | afterItem {items : List Json} {outer : List Frame} {ts ts' : List Token} (h : Context outer ts)
      (hitems : Phrase (.items items.reverse) ts') :
      Consumed (.afterItem items outer) (ts ++ .openBracket :: ts')
  | firstKey {outer : List Frame} {ts : List Token} (h : Context outer ts) :
      Consumed (.firstKey outer) (ts ++ [.openBrace])
  | nextKey {members : List (Literal × Json)} {outer : List Frame} {ts ts' : List Token}
      (h : Context outer ts) (hmembers : Phrase (.members members.reverse) ts') :
      Consumed (.nextKey members outer) (ts ++ .openBrace :: (ts' ++ [.comma]))
  | colon {members : List (Literal × Json)} {key : Literal} {outer : List Frame} {ts : List Token}
      (h : Context (.object members key :: outer) (ts ++ [.colon])) :
      Consumed (.colon members key outer) ts
  | afterMember {members : List (Literal × Json)} {outer : List Frame} {ts ts' : List Token}
      (h : Context outer ts) (hmembers : Phrase (.members members.reverse) ts') :
      Consumed (.afterMember members outer) (ts ++ .openBrace :: ts')
  | done {j : Json} {ts : List Token} (h : j.skipProblem? = none → Phrase (.value j) ts) :
      Consumed (.done j) ts
  | followed (j : Json) (ts : List Token) : Consumed (.followed j) ts

/-- A value around a part with a problem has a problem. -/
theorem skipProblem?_abandon {part : Json} (h : part.skipProblem? ≠ none) (p : Problem)
    (outer : List Frame) : (abandon p part outer).skipProblem? ≠ none := by
  induction outer generalizing part with
  | nil => exact h
  | cons frame outer ih =>
    cases frame with
    | array items => exact ih (Option.some_ne_none p)
    | object members key => exact ih (Option.some_ne_none p)

theorem skipProblem?_breakValue (b : Break) (outer : List Frame) :
    (breakValue b outer).skipProblem? ≠ none := by
  refine skipProblem?_abandon ?_ _ outer
  exact Option.some_ne_none b.asSkipped

theorem skipProblem?_breakArray (fault : Fault) (p : Problem) (items : List Json)
    (outer : List Frame) : (breakArray fault p items outer).skipProblem? ≠ none := by
  refine skipProblem?_abandon ?_ p outer
  exact Option.some_ne_none p

theorem skipProblem?_breakObject (fault : Fault) (p : Problem) (members : List (Literal × Json))
    (outer : List Frame) : (breakObject fault p members outer).skipProblem? ≠ none := by
  refine skipProblem?_abandon ?_ p outer
  exact Option.some_ne_none p

section Broken

variable {ts : List Token}

theorem consumed_breakValue (b : Break) (outer : List Frame) :
    Consumed (.done (breakValue b outer)) ts :=
  .done fun h => absurd h (skipProblem?_breakValue b outer)

theorem consumed_breakArray (fault : Fault) (p : Problem) (items : List Json)
    (outer : List Frame) : Consumed (.done (breakArray fault p items outer)) ts :=
  .done fun h => absurd h (skipProblem?_breakArray fault p items outer)

theorem consumed_breakObject (fault : Fault) (p : Problem) (members : List (Literal × Json))
    (outer : List Frame) : Consumed (.done (breakObject fault p members outer)) ts :=
  .done fun h => absurd h (skipProblem?_breakObject fault p members outer)

end Broken

/-- After a whole value, its tokens have been taken too. -/
theorem Consumed.complete {outer : List Frame} {ts ts' : List Token} (h : Context outer ts)
    {j : Json} (hj : Phrase (.value j) ts') : Consumed (Reading.complete j outer) (ts ++ ts') := by
  cases h with
  | nil => exact .done fun _ => hj
  | firstItem h =>
    rw [List.append_assoc, List.singleton_append]
    exact .afterItem h (.item hj)
  | nextItem h hitems =>
    rw [List.append_assoc, List.cons_append, List.append_assoc]
    refine .afterItem h ?_
    rw [List.reverse_cons]
    exact .items hitems hj
  | firstMember key h =>
    rw [List.append_assoc]
    exact .afterMember h (.member key hj)
  | nextMember key h hmembers =>
    rw [List.append_assoc, List.cons_append, List.append_assoc]
    refine .afterMember h ?_
    rw [List.reverse_cons]
    exact .members key hmembers hj

theorem Consumed.startValue {outer : List Frame} {ts : List Token} (h : Context outer ts)
    (t : Token) : Consumed (Reading.startValue outer t) (ts ++ [t]) := by
  cases t with
  | openBrace => exact .firstKey h
  | openBracket => exact .firstItem h
  | null => exact .complete h .null
  | bool b => exact .complete h (.bool b)
  | number n => exact .complete h (.number n)
  | string l => exact .complete h (.string l)
  | _ => exact consumed_breakValue _ outer

/-- After one more token, that token has been taken too. -/
theorem Consumed.step {r : Reading} {ts : List Token} (h : Consumed r ts) (t : Token) :
    Consumed (r.step t) (ts ++ [t]) := by
  cases h with
  | value h => exact .startValue h t
  | firstItem h =>
    -- an array may be empty, but no comma stands before its end
    by_cases ht : t = .closeBracket
    · subst ht
      rw [List.append_assoc]
      exact .complete h .emptyArray
    · rw [step_firstItem ht]
      exact .startValue (.firstItem h) t
  | nextItem h hitems =>
    by_cases ht : t = .closeBracket
    · subst ht
      exact consumed_breakArray _ _ _ _
    · rw [step_nextItem ht]
      exact .startValue (.nextItem h hitems) t
  | @afterItem items outer ts ts' h hitems =>
    rw [List.append_assoc, List.cons_append]
    cases t with
    | comma => exact .nextItem h hitems
    | closeBracket => exact .complete h (.array hitems)
    | _ => exact consumed_breakArray _ _ _ _
  | firstKey h =>
    rw [List.append_assoc]
    cases t with
    | closeBrace => exact .complete h .emptyObject
    | string key =>
      refine .colon ?_
      rw [List.append_assoc]
      exact .firstMember key h
    | brokenString b => exact consumed_breakValue _ _
    | _ => exact consumed_breakObject _ _ _ _
  | nextKey h hmembers =>
    rw [List.append_assoc, List.cons_append, List.append_assoc]
    cases t with
    | string key =>
      refine .colon ?_
      rw [List.append_assoc, List.cons_append, List.append_assoc]
      exact .nextMember key h hmembers
    | brokenString b => exact consumed_breakValue _ _
    | _ => exact consumed_breakObject _ _ _ _
  | colon h =>
    cases t with
    | colon => exact .value h
    | _ => exact consumed_breakValue _ _
  | afterMember h hmembers =>
    rw [List.append_assoc, List.cons_append]
    cases t with
    | comma => exact .nextKey h hmembers
    | closeBrace => exact .complete h (.object hmembers)
    | _ => exact consumed_breakObject _ _ _ _
  | done h => exact .followed _ _
  | followed j ts => exact .followed _ _

theorem Consumed.foldl {r : Reading} {ts : List Token} (h : Consumed r ts) (ts' : List Token) :
    Consumed (ts'.foldl Reading.step r) (ts ++ ts') := by
  induction ts' generalizing r ts with
  | nil => rwa [List.append_nil]
  | cons t ts' ih =>
    have hrest := ih (h.step t)
    rwa [List.append_assoc, List.singleton_append] at hrest

/-- A value is whole only at the end of its tokens. -/
theorem Consumed.phrase_of_result {r : Reading} {ts : List Token} (h : Consumed r ts) {j : Json}
    (hresult : r.result = (j, false)) (hj : j.skipProblem? = none) : Phrase (.value j) ts := by
  cases h with
  | done h =>
    cases hresult
    exact h hj
  | followed => cases hresult
  | value | nextItem | colon =>
    cases hresult
    exact absurd hj (skipProblem?_breakValue _ _)
  | firstItem | afterItem =>
    cases hresult
    exact absurd hj (skipProblem?_breakArray _ _ _ _)
  | firstKey | nextKey | afterMember =>
    cases hresult
    exact absurd hj (skipProblem?_breakObject _ _ _ _)

theorem Phrase.isProper {part : Part} {ts : List Token} (h : Phrase part ts) :
    ∀ t ∈ ts, t.IsProper := by
  induction h with
  | _ => simp_all [Token.IsProper, or_imp]

/-- A text that is read to its end as a value without a problem stands for the value. -/
theorem spells_of_ofText {s : List Char} {j : Json} (h : ofText s = (j, false))
    (hj : j.skipProblem? = none) : Spells j s := by
  have hconsumed := (Consumed.value .nil).foldl (tokens s)
  have hphrase := hconsumed.phrase_of_result h hj
  exact ⟨tokens s, hphrase, lexes_tokens s hphrase.isProper⟩

end FlowchartLayout.Json

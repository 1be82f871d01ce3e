import FlowchartLayout.Proofs.Json.Grammar

/-!
# Written values are read back

A value that was built whole is read back from its text, in any style that sets tokens apart by
blanks only: its text stands for it.

## Main definitions

- `Json.Whole` — values without a broken place, whose numerals are regular
- `Json.Style.IsBlank` — a style that puts nothing but blanks between tokens
- `Json.Makes`, `Json.Writes` — the tokens that a text is made of, whatever follows it

## Main statements

- `Json.writes_writeAt` — the text of a whole value stands for that value
- `Json.spells_write`, `Json.ofText_write` — reading undoes writing
-/

namespace FlowchartLayout.Json

/-- Values that are not broken anywhere, with regular numerals. -/
inductive Whole : Json → Prop where
  | null : Whole .null
  | bool (b : Bool) : Whole (.bool b)
  | number {n : Numeral} (h : n.Regular) : Whole (.number n)
  | string (s : String) : Whole (.string (.ok s))
  | array {items : List Json} (h : ∀ j ∈ items, Whole j) : Whole (.array items .closed)
  | object {members : List (Literal × Json)} (hkeys : ∀ m ∈ members, ∃ key, m.1 = .ok key)
      (h : ∀ m ∈ members, Whole m.2) : Whole (.object members .closed)

/-! ## Styles -/

/-- Nothing but blanks stands between tokens. -/
structure Style.IsBlank (style : Style) : Prop where
  newLine : ∀ depth, ∀ c ∈ style.newLine depth, isSpace c = true
  afterColon : ∀ c ∈ style.afterColon, isSpace c = true

theorem isBlank_compact : Style.compact.IsBlank :=
  ⟨by simp [Style.compact], by simp [Style.compact]⟩

theorem isBlank_indented : Style.indented.IsBlank where
  newLine depth c hc := by
    rcases List.mem_cons.1 hc with rfl | hc
    · rfl
    · rw [List.eq_of_mem_replicate hc]
      rfl
  afterColon c hc := by
    rw [List.mem_singleton.1 hc]
    rfl

/-! ## What follows a value -/

theorem endsNumber_nil : EndsNumber [] := by
  rintro c ⟨⟩

/-- A number before the text ends, if it would end before what follows the text. -/
def SetsApart (text : List Char) : Prop :=
  ∀ s, EndsNumber s → EndsNumber (text ++ s)

theorem setsApart_cons {c : Char} (h : c.isDigit = false ∧ c ≠ '.' ∧ c ≠ 'e' ∧ c ≠ 'E')
    (text : List Char) : SetsApart (c :: text) := by
  rintro s - d ⟨⟩
  exact h

theorem setsApart_nil : SetsApart [] :=
  fun _ hs => hs

theorem SetsApart.append {text text' : List Char} (h : SetsApart text) (h' : SetsApart text') :
    SetsApart (text ++ text') := by
  intro s hs
  rw [List.append_assoc]
  exact h _ (h' s hs)

theorem setsApart_gap {gap : List Char} (hgap : ∀ c ∈ gap, isSpace c = true) :
    SetsApart gap := by
  cases gap with
  | nil => exact setsApart_nil
  | cons c gap =>
    have hc := hgap c (List.mem_cons_self ..)
    simp only [isSpace, Bool.or_eq_true, beq_iff_eq] at hc
    rcases hc with ((rfl | rfl) | rfl) | rfl <;> exact setsApart_cons (by decide) _

theorem setsApart_writeItems (style : Style) (depth : Nat) (items : List Json) :
    SetsApart (writeItems style depth items) := by
  cases items with
  | nil =>
    rw [writeItems]
    exact setsApart_nil
  | cons item items =>
    rw [writeItems]
    exact setsApart_cons (by decide) _

theorem setsApart_writeMembers (style : Style) (depth : Nat) (members : List (Literal × Json)) :
    SetsApart (writeMembers style depth members) := by
  cases members with
  | nil =>
    rw [writeMembers]
    exact setsApart_nil
  | cons member members =>
    rw [writeMembers]
    exact setsApart_cons (by decide) _

/-! ## Tokens of a text -/

theorem endsToken_of_endsNumber {s : List Char} (h : EndsNumber s) (t : Token) : EndsToken t s := by
  cases t with
  | number n => exact h
  | _ => trivial

theorem Lexes.token {t : Token} {ts : List Token} {text rest : List Char} (h : TokenText t text)
    (hends : EndsToken t rest) (hrest : Lexes ts rest) : Lexes (t :: ts) (text ++ rest) := by
  have hcons := Lexes.cons (List.forall_mem_nil _) h hends hrest
  rwa [List.nil_append] at hcons

theorem Lexes.space_append {ts : List Token} {s gap : List Char} (h : Lexes ts s)
    (hgap : ∀ c ∈ gap, isSpace c = true) : Lexes ts (gap ++ s) := by
  cases h with
  | nil hgap' => exact .nil (List.forall_mem_append.2 ⟨hgap, hgap'⟩)
  | cons hgap' h hends hrest =>
    rw [← List.append_assoc]
    exact .cons (List.forall_mem_append.2 ⟨hgap, hgap'⟩) h hends hrest

/-- The text is made of the tokens, whatever follows it that does not go on with a number. -/
def Makes (text : List Char) (ts : List Token) : Prop :=
  ∀ (ts' : List Token) (s : List Char), EndsNumber s → Lexes ts' s → Lexes (ts ++ ts') (text ++ s)

theorem makes_nil : Makes [] [] :=
  fun _ _ _ h => h

theorem makes_token {t : Token} {text : List Char} (h : TokenText t text) : Makes text [t] :=
  fun _ _ hs hrest => .token h (endsToken_of_endsNumber hs t) hrest

section Makes

variable {text text' gap gap' : List Char} {ts ts' : List Token}

theorem Makes.append (h : Makes text ts) (h' : Makes text' ts') (hapart : SetsApart text') :
    Makes (text ++ text') (ts ++ ts') := by
  intro ts'' s hs hrest
  rw [List.append_assoc, List.append_assoc]
  exact h _ _ (hapart s hs) (h' ts'' s hs hrest)

theorem Makes.space_append (h : Makes text ts) (hgap : ∀ c ∈ gap, isSpace c = true) :
    Makes (gap ++ text) ts := by
  intro ts' s hs hrest
  rw [List.append_assoc]
  exact (h ts' s hs hrest).space_append hgap

/-- Anything may follow a token that is no number. -/
theorem Makes.cons {t : Token} (ht : TokenText t text) (hnumber : ∀ n, t ≠ .number n)
    (h : Makes text' ts) : Makes (text ++ text') (t :: ts) := by
  intro ts' s hs hrest
  have hends : EndsToken t (text' ++ s) := by
    cases t with
    | number n => exact absurd rfl (hnumber n)
    | _ => trivial
  rw [List.append_assoc]
  exact .token ht hends (h ts' s hs hrest)

/-- Brackets may be set apart from what they enclose. -/
theorem Makes.enclose {opening closing : Token} {a b : Char} (ha : TokenText opening [a])
    (hnumber : ∀ n, opening ≠ .number n) (hb : TokenText closing [b])
    (hapart : b.isDigit = false ∧ b ≠ '.' ∧ b ≠ 'e' ∧ b ≠ 'E')
    (hgap : ∀ c ∈ gap, isSpace c = true) (hgap' : ∀ c ∈ gap', isSpace c = true)
    (h : Makes text ts) :
    Makes (a :: (gap ++ (text ++ (gap' ++ [b])))) (opening :: (ts ++ [closing])) := by
  have hclose : Makes (text ++ (gap' ++ [b])) (ts ++ [closing]) :=
    h.append ((makes_token hb).space_append hgap')
      ((setsApart_gap hgap').append (setsApart_cons hapart []))
  exact .cons ha hnumber (hclose.space_append hgap)

end Makes

theorem tokenText_quote (s : String) : TokenText (.string (.ok s)) (quote s.toList) := by
  have hliteral := literalText_flatMap_escape [] s.toList
  rw [List.reverse_nil, List.nil_append, String.ofList_toList] at hliteral
  exact .string hliteral

theorem tokenText_numeral {n : Numeral} (h : n.Regular) : TokenText (.number n) n.text := by
  rw [← Numeral.textWith_e]
  exact .number h (.inl rfl)

/-! ## Texts of values -/

/-- The text stands for the value, or for the items or members, wherever it stands. -/
def Writes (part : Part) (text : List Char) : Prop :=
  ∃ ts, Phrase part ts ∧ Makes text ts

section Parts

variable {style : Style} (hstyle : style.IsBlank) {depth : Nat}

include hstyle

/-- Further items come after those before them. -/
theorem exists_makes_writeItems {items : List Json}
    (hitems : ∀ j ∈ items, Writes (.value j) (writeAt style depth j)) {before : List Json}
    {ts : List Token} (hbefore : Phrase (.items before) ts) :
    ∃ ts', Phrase (.items (before ++ items)) (ts ++ ts') ∧
      Makes (writeItems style depth items) ts' := by
  induction items generalizing before ts with
  | nil =>
    rw [writeItems, List.append_nil]
    exact ⟨[], by rwa [List.append_nil], makes_nil⟩
  | cons item items ih =>
    obtain ⟨tsItem, hitem, hmakes⟩ := hitems item (List.mem_cons_self ..)
    obtain ⟨tsRest, hrest, hmakesRest⟩ :=
      ih (fun j hj => hitems j (List.mem_cons_of_mem _ hj)) (.items hbefore hitem)
    rw [List.append_assoc, List.singleton_append, List.append_assoc, List.cons_append] at hrest
    refine ⟨_, hrest, ?_⟩
    have hvalues := hmakes.append hmakesRest (setsApart_writeItems style depth items)
    rw [writeItems, List.cons_append, List.cons_append, List.append_assoc]
    exact .cons .comma nofun (hvalues.space_append (hstyle.newLine depth))

theorem makes_writeMember (key : String) {j : Json} {ts : List Token}
    (h : Makes (writeAt style depth j) ts) :
    Makes (writeMember style depth (.ok key, j)) (.string (.ok key) :: .colon :: ts) := by
  have hvalue : Makes ([':'] ++ (style.afterColon ++ writeAt style depth j)) (.colon :: ts) :=
    .cons .colon nofun (h.space_append hstyle.afterColon)
  have hmember := Makes.cons (tokenText_quote key) nofun hvalue
  rw [writeMember, List.append_assoc]
  exact hmember

/-- Further members come after those before them. -/
theorem exists_makes_writeMembers {members : List (Literal × Json)}
    (hkeys : ∀ m ∈ members, ∃ key, m.1 = .ok key)
    (hmembers : ∀ m ∈ members, Writes (.value m.2) (writeAt style depth m.2))
    {before : List (Literal × Json)} {ts : List Token} (hbefore : Phrase (.members before) ts) :
    ∃ ts', Phrase (.members (before ++ members)) (ts ++ ts') ∧
      Makes (writeMembers style depth members) ts' := by
  induction members generalizing before ts with
  | nil =>
    rw [writeMembers, List.append_nil]
    exact ⟨[], by rwa [List.append_nil], makes_nil⟩
  | cons member members ih =>
    obtain ⟨key, j⟩ := member
    obtain ⟨key, rfl⟩ := hkeys (key, j) (List.mem_cons_self ..)
    obtain ⟨tsValue, hvalue, hmakes⟩ := hmembers _ (List.mem_cons_self ..)
    obtain ⟨tsRest, hrest, hmakesRest⟩ := ih (fun m hm => hkeys m (List.mem_cons_of_mem _ hm))
      (fun m hm => hmembers m (List.mem_cons_of_mem _ hm)) (.members (.ok key) hbefore hvalue)
    simp only [List.append_assoc, List.cons_append] at hrest
    refine ⟨_, hrest, ?_⟩
    have hall := (makes_writeMember hstyle key hmakes).append hmakesRest
      (setsApart_writeMembers style depth members)
    rw [writeMembers, List.cons_append, List.cons_append, List.append_assoc]
    exact .cons .comma nofun (hall.space_append (hstyle.newLine depth))

theorem writes_array {items : List Json}
    (hitems : ∀ j ∈ items, Writes (.value j) (writeAt style (depth + 1) j)) :
    Writes (.value (.array items .closed)) (writeAt style depth (.array items .closed)) := by
  cases items with
  | nil =>
    rw [writeAt]
    exact ⟨_, .emptyArray, .cons .openBracket nofun (makes_token .closeBracket)⟩
  | cons item items =>
    obtain ⟨ts, hitem, hmakes⟩ := hitems item (List.mem_cons_self ..)
    obtain ⟨ts', hphrase, hmakes'⟩ := exists_makes_writeItems hstyle
      (fun j hj => hitems j (List.mem_cons_of_mem _ hj)) (.item hitem)
    have hall := hmakes.append hmakes' (setsApart_writeItems style (depth + 1) items)
    have htext := hall.enclose .openBracket nofun .closeBracket (by decide)
      (hstyle.newLine (depth + 1)) (hstyle.newLine depth)
    refine ⟨_, .array hphrase, ?_⟩
    simpa only [writeAt, List.append_assoc, List.cons_append] using htext

theorem writes_object {members : List (Literal × Json)}
    (hkeys : ∀ m ∈ members, ∃ key, m.1 = .ok key)
    (hmembers : ∀ m ∈ members, Writes (.value m.2) (writeAt style (depth + 1) m.2)) :
    Writes (.value (.object members .closed)) (writeAt style depth (.object members .closed)) := by
  cases members with
  | nil =>
    rw [writeAt]
    exact ⟨_, .emptyObject, .cons .openBrace nofun (makes_token .closeBrace)⟩
  | cons member members =>
    obtain ⟨key, j⟩ := member
    obtain ⟨key, rfl⟩ := hkeys (key, j) (List.mem_cons_self ..)
    obtain ⟨ts, hvalue, hmakes⟩ := hmembers _ (List.mem_cons_self ..)
    obtain ⟨ts', hphrase, hmakes'⟩ := exists_makes_writeMembers hstyle
      (fun m hm => hkeys m (List.mem_cons_of_mem _ hm))
      (fun m hm => hmembers m (List.mem_cons_of_mem _ hm)) (.member (.ok key) hvalue)
    have hall := (makes_writeMember hstyle key hmakes).append hmakes'
      (setsApart_writeMembers style (depth + 1) members)
    have htext := hall.enclose .openBrace nofun .closeBrace (by decide)
      (hstyle.newLine (depth + 1)) (hstyle.newLine depth)
    refine ⟨_, .object hphrase, ?_⟩
    simpa only [writeAt, List.append_assoc, List.cons_append] using htext

end Parts

/-- The text of a whole value stands for that value. -/
theorem writes_writeAt {style : Style} (hstyle : style.IsBlank) {j : Json} (h : j.Whole)
    (depth : Nat) : Writes (.value j) (writeAt style depth j) := by
  induction h generalizing depth with
  | null =>
    rw [writeAt]
    exact ⟨_, .null, makes_token .null⟩
  | bool b =>
    rw [writeAt]
    exact ⟨_, .bool b, makes_token (.bool b)⟩
  | @number n hn =>
    rw [writeAt]
    exact ⟨_, .number n, makes_token (tokenText_numeral hn)⟩
  | string s =>
    rw [writeAt]
    exact ⟨_, .string (.ok s), makes_token (tokenText_quote s)⟩
  | array _ ih => exact writes_array hstyle fun j hj => ih j hj (depth + 1)
  | object hkeys _ ih => exact writes_object hstyle hkeys fun m hm => ih m hm (depth + 1)

theorem Whole.isJson {j : Json} (h : j.Whole) : j.IsJson :=
  (writes_writeAt isBlank_compact h 0).imp fun _ h => h.1

/-- The whole text stands for the value, with nothing before or after it. -/
theorem spells_write {style : Style} (hstyle : style.IsBlank) {j : Json} (h : j.Whole) :
    Spells j (write style j).toList := by
  obtain ⟨ts, hphrase, hmakes⟩ := writes_writeAt hstyle h 0
  have hlexes := hmakes [] [] endsNumber_nil (.nil (List.forall_mem_nil _))
  rw [List.append_nil, List.append_nil] at hlexes
  rw [write, String.toList_ofList]
  exact ⟨ts, hphrase, hlexes⟩

/-- A whole value is read back from its text, and nothing follows it. -/
theorem ofText_write {style : Style} (hstyle : style.IsBlank) {j : Json} (h : j.Whole) :
    ofText (write style j).toList = (j, false) :=
  (spells_write hstyle h).ofText_eq

end FlowchartLayout.Json

import FlowchartLayout.Proofs.Source.Operators
import Mathlib.Data.List.Infix

/-!
# The longest operator

Several operators may begin at one place of a text: `---` begins with `--`, and `-.->` with `-.-`.
The one that is read is the longest of them, as long as a blank or a bar follows it, so that nothing
of an operator is left over and nothing behind it is taken.

## Main definitions

- `IsSign` — the characters that operators without a label consist of
- `ReadsLongest` — an operator is read, and none that begins at the same place is longer

## Main statements

- `OperatorText.readsLongest` — written operators are the longest ones where they stand
- `readsLongest_operators` — all operators, of any length, with the links that they are read as
-/

namespace FlowchartLayout.Source

/-- Of the written operators at the start of `text ++ rest` the text is the longest, and it is read
as the link, up to the rest. -/
structure ReadsLongest (text : List Char) (link : Link) (rest : List Char) : Prop where
  read : readLink? (text ++ rest) = some (link, rest)
  longest : ∀ {other : List Char} {link' : Link}, OperatorText other link' →
    other <+: text ++ rest → other.length ≤ text.length

/-! ## Signs -/

/-- The character occurs in operators outside of labels. -/
def IsSign (c : Char) : Prop :=
  c ∈ ['<', '>', '-', '=', '.', 'o', 'x']

instance (c : Char) : Decidable (IsSign c) :=
  inferInstanceAs (Decidable (c ∈ ['<', '>', '-', '=', '.', 'o', 'x']))

/-- A run of one sign, with signs before and behind it. -/
theorem isSign_of_mem_run (first last : List Char) {d : Char} {n : Nat}
    (hfirst : ∀ c ∈ first, IsSign c) (hd : IsSign d) (hlast : ∀ c ∈ last, IsSign c) :
    ∀ c ∈ first ++ (List.replicate n d ++ last), IsSign c := by
  intro c hc
  rcases List.mem_append.1 hc with hc | hc
  · exact hfirst c hc
  · rcases List.mem_append.1 hc with hc | hc
    · rw [List.eq_of_mem_replicate hc]
      exact hd
    · exact hlast c hc

theorem isInlineBlank_eq_false_of_isSign {c : Char} (h : IsSign c) : isInlineBlank c = false := by
  simp only [IsSign, List.mem_cons, List.not_mem_nil, or_false] at h
  rcases h with rfl | rfl | rfl | rfl | rfl | rfl | rfl
  all_goals rfl

/-- What ends an operator is none of its signs. -/
theorem EndsOperator.not_isSign {s : List Char} (h : EndsOperator s) {c : Char}
    (hc : c ∈ s.head?) : ¬ IsSign c := by
  rcases h c hc with rfl | rfl | rfl
  all_goals decide

section OperatorText

variable {text : List Char} {link : Link}

theorem DashesText.isSign (h : DashesText text link) : ∀ c ∈ text, IsSign c := by
  cases h with
  | arrow => exact isSign_of_mem_run [] ['>'] nofun (by decide) (by simp [IsSign])
  | plain =>
    rw [← List.append_nil (List.replicate _ _)]
    exact isSign_of_mem_run [] [] nofun (by decide) nofun

/-- The written operator has a label inside: two dashes with an inline blank behind them, the label
with its last blank, and the dashes at the end. -/
def IsLabelled (text : List Char) : Prop :=
  ∃ (a b : Char) (t dashes : List Char) (link : Link), isInlineBlank a = true ∧
    isInlineBlank b = true ∧ ¬ ['-', '-'] <:+: t ∧ DashesText dashes link ∧
    text = '-' :: '-' :: a :: (t ++ b :: dashes)

/-- An operator without a label inside consists of signs. -/
theorem OperatorText.isSign_or_isLabelled (h : OperatorText text link) :
    (∀ c ∈ text, IsSign c) ∨ IsLabelled text := by
  cases h with
  | bidirectional =>
    exact .inl (isSign_of_mem_run ['<'] _ (by simp [IsSign]) (by decide) (by simp [IsSign]))
  | dotted | dottedLine =>
    exact .inl (isSign_of_mem_run ['-'] _ (by simp [IsSign]) (by decide) (by simp [IsSign]))
  | thick | circled | crossed =>
    exact .inl (isSign_of_mem_run [] _ nofun (by decide) (by simp [IsSign]))
  | thickLine =>
    rw [← List.append_nil (List.replicate _ _)]
    exact .inl (isSign_of_mem_run [] [] nofun (by decide) nofun)
  | dashes h => exact .inl h.isSign
  | labelled ha hb hdashes _ _ _ h => exact .inr ⟨_, _, _, _, _, ha, hb, hdashes, h, rfl⟩

/-- No operator is shorter than three characters. -/
theorem OperatorText.three_le_length (h : OperatorText text link) : 3 ≤ text.length := by
  cases h with
  | dashes h =>
    cases h with
    | arrow hn | plain hn => simpa using hn
  | bidirectional hn | dotted hn | dottedLine hn | thick hn | thickLine hn | circled hn
  | crossed hn =>
    simp only [List.length_cons, List.length_append, List.length_replicate, List.length_nil]
    omega
  | labelled => simp

end OperatorText

/-! ## No longer operator -/

/-- An operator with a label goes on to the same place wherever its text begins. -/
theorem IsLabelled.eq_nil_of_append {text more : List Char} (h : IsLabelled text)
    (h' : IsLabelled (text ++ more)) (hmore : ∀ c ∈ more.head?, ¬ IsSign c) : more = [] := by
  obtain ⟨a, b, t, dashes, link, ha, hb, ht, hdashes, rfl⟩ := h
  obtain ⟨a', b', t', dashes', link', ha', hb', ht', hdashes', heq⟩ := h'
  have hne {c : Char} (hc : isInlineBlank c = true) : c ≠ '-' := by
    rintro rfl
    cases hc
  -- both labels end at the first two dashes, so that the dashes at both ends are the same
  have hbody : t ++ b :: (dashes ++ more) = t' ++ b' :: dashes' := by
    simpa using (List.cons.inj (List.cons.inj (List.cons.inj heq).2).2).2
  obtain ⟨d, rfl⟩ := hdashes.exists_eq
  obtain ⟨d', rfl⟩ := hdashes'.exists_eq
  have hsplit := congrArg untilDashes? hbody
  rw [List.cons_append, List.cons_append, untilDashes?_append ht (hne hb),
    untilDashes?_append ht' (hne hb')] at hsplit
  have hends : '-' :: '-' :: (d ++ more) = '-' :: '-' :: d' :=
    congrArg Prod.snd (Option.some.inj hsplit)
  cases more with
  | nil => rfl
  | cons c more =>
    refine absurd (hdashes'.isSign c ?_) (hmore c rfl)
    rw [← hends]
    simp

/-- A written operator with something behind it that begins with no sign is not an operator. -/
theorem OperatorText.eq_nil_of_append {text more : List Char} {link link' : Link}
    (h : OperatorText text link) (h' : OperatorText (text ++ more) link')
    (hmore : ∀ c ∈ more.head?, ¬ IsSign c) : more = [] := by
  rcases h'.isSign_or_isLabelled with hsigns | hlabelled'
  · cases more with
    | nil => rfl
    | cons c more => exact absurd (hsigns c (by simp)) (hmore c rfl)
  · rcases h.isSign_or_isLabelled with hsigns | hlabelled
    · -- the third character would be a sign and a blank
      obtain ⟨a, b, t, dashes, -, ha, -, -, -, heq⟩ := hlabelled'
      have hthird : text[2]? = some a := by
        rw [← List.getElem?_append_left h.three_le_length, heq]
        rfl
      have hblank := isInlineBlank_eq_false_of_isSign (hsigns a (List.mem_of_getElem? hthird))
      rw [ha] at hblank
      cases hblank
    · exact hlabelled.eq_nil_of_append hlabelled' hmore

/-- A written operator is read, and no longer operator begins where it does. -/
theorem OperatorText.readsLongest {text rest : List Char} {link : Link}
    (h : OperatorText text link) (hrest : EndsOperator rest) : ReadsLongest text link rest where
  read := readLink?_operatorText hrest h
  longest := by
    intro other link' hother hprefix
    by_contra hlt
    obtain ⟨more, rfl⟩ : text <+: other :=
      List.prefix_of_prefix_length_le (List.prefix_append text rest) hprefix (by omega)
    have hmore : more <+: rest := List.prefix_append_right_inj text |>.1 hprefix
    have hnil : more = [] := by
      refine h.eq_nil_of_append hother fun c hc => hrest.not_isSign ?_
      obtain ⟨after, rfl⟩ := hmore
      cases more with
      | nil => cases hc
      | cons d more => exact hc
    simp [hnil] at hlt

/-! ## All operators -/

/-- A label that is not blank has a first character behind its spaces and tabs. -/
theorem exists_head?_of_trim_ne_nil {t : List Char} (h : trim t ≠ []) :
    ∃ c, (skipInlineBlanks t).head? = some c := by
  cases hskip : skipInlineBlanks t with
  | nil =>
    rw [← trim_skipInlineBlanks, hskip] at h
    exact absurd rfl h
  | cons c u => exact ⟨c, rfl⟩

/-- Each operator, however often its character is repeated, is read as a whole and up to what
follows it, if that is nothing or begins with a space, a tab or a bar, and no longer operator begins
there. A label inside, which is not blank, has no two dashes in a row and does not begin like an
operator, is trimmed. -/
theorem readsLongest_operators {rest : List Char}
    (hrest : ∀ c ∈ rest.head?, c = ' ' ∨ c = '\t' ∨ c = '|') :
    (∀ n ≥ 2, ReadsLongest ('<' :: (List.replicate n '-' ++ ['>']))
      ⟨.bidirectional, .arrow, .arrow, none⟩ rest) ∧
    (∀ n ≥ 1, ReadsLongest ('-' :: (List.replicate n '.' ++ ['-', '>']))
      ⟨.dotted, .bare, .arrow, none⟩ rest) ∧
    (∀ n ≥ 1, ReadsLongest ('-' :: (List.replicate n '.' ++ ['-']))
      ⟨.dotted, .bare, .bare, none⟩ rest) ∧
    (∀ n ≥ 2, ReadsLongest (List.replicate n '=' ++ ['>']) ⟨.thick, .bare, .arrow, none⟩ rest) ∧
    (∀ n ≥ 3, ReadsLongest (List.replicate n '=') ⟨.thick, .bare, .bare, none⟩ rest) ∧
    (∀ n ≥ 2, ReadsLongest (List.replicate n '-' ++ ['>']) ⟨.arrow, .bare, .arrow, none⟩ rest) ∧
    (∀ n ≥ 2, ReadsLongest (List.replicate n '-' ++ ['o']) ⟨.arrow, .bare, .circle, none⟩ rest) ∧
    (∀ n ≥ 2, ReadsLongest (List.replicate n '-' ++ ['x']) ⟨.arrow, .bare, .cross, none⟩ rest) ∧
    (∀ n ≥ 3, ReadsLongest (List.replicate n '-') ⟨.plain, .bare, .bare, none⟩ rest) ∧
    ∀ t : List Char, trim t ≠ [] → ¬ ['-', '-'] <:+: t →
      (∀ c ∈ (skipInlineBlanks t).head?, c ≠ '-' ∧ c ≠ '=' ∧ c ≠ '.') →
      (∀ n ≥ 2, ReadsLongest
        ('-' :: '-' :: ' ' :: (t ++ ' ' :: (List.replicate n '-' ++ ['>'])))
        ⟨.arrow, .bare, .arrow, some (String.ofList (trim t))⟩ rest) ∧
      ∀ n ≥ 3, ReadsLongest ('-' :: '-' :: ' ' :: (t ++ ' ' :: List.replicate n '-'))
        ⟨.plain, .bare, .bare, some (String.ofList (trim t))⟩ rest := by
  refine ⟨fun n hn => ?_, fun n hn => ?_, fun n hn => ?_, fun n hn => ?_, fun n hn => ?_,
    fun n hn => ?_, fun n hn => ?_, fun n hn => ?_, fun n hn => ?_,
    fun t hblank hdashes hstart => ?_⟩
  · exact (OperatorText.bidirectional hn).readsLongest hrest
  · exact (OperatorText.dotted hn).readsLongest hrest
  · exact (OperatorText.dottedLine hn).readsLongest hrest
  · exact (OperatorText.thick hn).readsLongest hrest
  · exact (OperatorText.thickLine hn).readsLongest hrest
  · exact (OperatorText.dashes (.arrow hn)).readsLongest hrest
  · exact (OperatorText.circled hn).readsLongest hrest
  · exact (OperatorText.crossed hn).readsLongest hrest
  · exact (OperatorText.dashes (.plain hn)).readsLongest hrest
  · obtain ⟨c, hc⟩ := exists_head?_of_trim_ne_nil hblank
    have hlabelled {dashes : List Char} {link : Link} (h : DashesText dashes link) :
        ReadsLongest ('-' :: '-' :: ' ' :: (t ++ ' ' :: dashes))
          { link with label := some (String.ofList (trim t)) } rest :=
      (OperatorText.labelled rfl rfl hdashes hc (hstart c hc) (.text hblank) h).readsLongest hrest
    exact ⟨fun n hn => hlabelled (.arrow hn), fun n hn => hlabelled (.plain hn)⟩

/-- The dash at the end of the label and the letter before the blank belong to the label. -/
theorem readsLongest_dashedLabel :
    (∀ c ∈ " B".toList.head?, c = ' ' ∨ c = '\t' ∨ c = '|') ∧ trim "x o-".toList ≠ [] ∧
      ¬ ['-', '-'] <:+: "x o-".toList ∧
      (∀ c ∈ (skipInlineBlanks "x o-".toList).head?, c ≠ '-' ∧ c ≠ '=' ∧ c ≠ '.') ∧
      ReadsLongest "-- x o- --->".toList ⟨.arrow, .bare, .arrow, some "x o-"⟩ " B".toList :=
  ⟨by simp, by decide, by decide, by simp [skipInlineBlanks, isInlineBlank],
    ((@readsLongest_operators " B".toList (by simp)).2.2.2.2.2.2.2.2.2 "x o-".toList
      (by decide) (by decide) (by simp [skipInlineBlanks, isInlineBlank])).1 3 (by decide)⟩

end FlowchartLayout.Source

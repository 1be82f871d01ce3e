import FlowchartLayout.Proofs.Source.Chains
import FlowchartLayout.Proofs.Source.Ids

/-!
# Reading goes forward

What a reader leaves of a text is a suffix of it. Where a text begins like a shape definition there
always is one, and it takes at least a character; an operator takes at least two. So the links of a
line are read in no more steps than the line has characters, whatever they look like.

## Main definitions

- `Cursor`, `Reading` — where the reader of a chain stands, and the draft so far
- `Reading.Step` — one step: a link is read, or one of its targets
- `Reading.Reaches` — a number of steps
- `Reading.Terminates` — the steps come to an end
- `LinksFrom` — the texts from which the links of a line are read

## Main statements

- `exists_readShape?_of_mem` — every opening bracket begins a shape definition
- `Reading.Step.forward`, `Reading.Reaches.forward` — what one step and any number of steps leave
- `Reading.exists_reaches_readHops` — the steps follow the links, and then end
- `linksFrom_of_readChain` — what the links of a chain are read from
- `reading_forward` — all of this, for every line
-/

namespace FlowchartLayout.Source

/-! ## What readers leave -/

theorem afterStart?_suffix {start s rest : List Char} (h : afterStart? start s = some rest) :
    rest <:+ s :=
  ⟨start, (eq_append_of_afterStart? h).symm⟩

theorem dropStart_suffix (start s : List Char) : dropStart start s <:+ s := by
  unfold dropStart
  cases h : afterStart? start s with
  | none => exact List.suffix_refl s
  | some rest => exact afterStart?_suffix h

theorem skipInlineBlanks_suffix (s : List Char) : skipInlineBlanks s <:+ s :=
  List.dropWhile_suffix isInlineBlank

theorem afterWord_suffix (s : List Char) : afterWord s <:+ s :=
  List.dropWhile_suffix isWordChar

theorem readQuoted?_suffix {s rest : List Char} {label : String}
    (h : readQuoted? s = some (label, rest)) : rest <:+ s := by
  unfold readQuoted? at h
  split at h
  · next s =>
    obtain ⟨-, rfl⟩ := Prod.mk.inj (Option.some.inj h)
    have hquote : (s.dropWhile (· != '"')).tail <:+ s :=
      (List.tail_suffix _).trans (List.dropWhile_suffix _)
    exact (skipInlineBlanks_suffix _).trans (hquote.trans (List.suffix_cons '"' s))
  · cases h

theorem scanBracketed_suffix (nest : Option Char) (stop : Char) (depth : Nat) (s : List Char) :
    (scanBracketed nest stop depth s).2 <:+ s := by
  induction s generalizing depth with
  | nil => exact List.suffix_refl []
  | cons c s ih =>
    unfold scanBracketed
    split
    · cases depth with
      | zero => exact List.suffix_refl (c :: s)
      | succ depth => exact (ih depth).trans (List.suffix_cons c s)
    · split
      · exact (ih (depth + 1)).trans (List.suffix_cons c s)
      · exact (ih depth).trans (List.suffix_cons c s)

theorem readLabel_suffix (nest : Option Char) (stop : Char) (s : List Char) :
    (readLabel nest stop s).2 <:+ s := by
  dsimp only [readLabel]
  split
  · next r h => exact (readQuoted?_suffix h).trans (skipInlineBlanks_suffix s)
  · exact (scanBracketed_suffix nest stop 0 _).trans (skipInlineBlanks_suffix s)

/-! ## Shape definitions -/

theorem Bracket.read?_suffix {b : Bracket} {s rest : List Char} {definition : NodeShape}
    (h : b.read? s = some (definition, rest)) : rest <:+ s := by
  simp only [Bracket.read?, Option.map_eq_some_iff, Prod.mk.injEq] at h
  obtain ⟨inside, hinside, -, rfl⟩ := h
  have hlabel := readLabel_suffix b.nest b.stop inside
  exact (dropStart_suffix _ _).trans (hlabel.trans (afterStart?_suffix hinside))

theorem readSlanted?_suffix {s rest : List Char} {definition : NodeShape}
    (h : readSlanted? s = some (definition, rest)) : rest <:+ s := by
  have key {inside rest : List Char} {c : Char} (hinside : afterStart? ['[', '/'] s = some inside)
      (hslash : (inside.dropWhile fun c => c != '/' && c != '\\') = c :: rest) :
      dropStart [']'] rest <:+ s := by
    have hlabel : c :: rest <:+ inside := hslash ▸ List.dropWhile_suffix _
    have hrest := (dropStart_suffix [']'] rest).trans (List.suffix_cons c rest)
    exact hrest.trans (hlabel.trans (afterStart?_suffix hinside))
  unfold readSlanted? at h
  split at h
  · cases h
  · next inside hinside =>
    simp only at h
    split at h
    · next hslash =>
      obtain ⟨-, rfl⟩ := Prod.mk.inj (Option.some.inj h)
      exact key hinside hslash
    · next hslash =>
      obtain ⟨-, rfl⟩ := Prod.mk.inj (Option.some.inj h)
      exact key hinside hslash
    · cases h

theorem readShape?_suffix {s rest : List Char} {definition : NodeShape}
    (h : readShape? s = some (definition, rest)) : rest <:+ s := by
  have key {bs : List Bracket} (h : bs.findSome? (·.read? s) = some (definition, rest)) :
      rest <:+ s := by
    obtain ⟨b, -, hread⟩ := List.exists_of_findSome?_eq_some h
    exact Bracket.read?_suffix hread
  simp only [readShape?, Option.orElse_eq_orElse, Option.orElse_eq_or, Option.or_eq_some_iff] at h
  rcases h with h | ⟨-, h | ⟨-, h⟩⟩
  · exact key h
  · exact readSlanted?_suffix h
  · exact key h

/-- The brackets with one character to open them. They are tried last, and need no closing bracket,
so that every opening bracket begins a shape definition. -/
theorem exists_bracket_of_mem {c : Char} (h : c ∈ ['[', '(', '{', '>']) :
    ∃ b ∈ otherBrackets, b.opener = [c] := by
  simp only [List.mem_cons, List.not_mem_nil, or_false] at h
  rcases h with rfl | rfl | rfl | rfl <;> decide

theorem exists_readShape?_of_mem {c : Char} (h : c ∈ ['[', '(', '{', '>']) (s : List Char) :
    ∃ definition rest, readShape? (c :: s) = some (definition, rest) ∧ rest <:+ s := by
  obtain ⟨b, hb, hopener⟩ := exists_bracket_of_mem h
  have hread : (b.read? (c :: s)).isSome = true := by
    have hinside : afterStart? b.opener (c :: s) = some s := by
      rw [hopener]
      exact afterStart?_append [c] s
    rw [Bracket.read?, hinside]
    rfl
  have hsome : (readShape? (c :: s)).isSome = true := by
    have hothers : (otherBrackets.findSome? (·.read? (c :: s))).isSome = true :=
      List.findSome?_isSome_iff.2 ⟨b, hb, hread⟩
    simp only [readShape?, Option.orElse_eq_orElse, Option.orElse_eq_or, Option.isSome_or, hothers,
      Bool.or_true]
  obtain ⟨⟨definition, rest⟩, hshape⟩ := Option.isSome_iff_exists.1 hsome
  refine ⟨definition, rest, hshape, ?_⟩
  -- it is a suffix of the text, and shorter
  rcases List.suffix_cons_iff.1 (readShape?_suffix hshape) with rfl | hsuffix
  · exact absurd (length_readShape?_le hshape) (by simp)
  · exact hsuffix

/-! ## Links -/

theorem Piece.after?_suffix {p : Piece} {s rest : List Char} (h : p.after? s = some rest) :
    rest <:+ s := by
  cases p with
  | fixed cs => exact afterStart?_suffix h
  | run least c =>
    simp only [Piece.after?] at h
    split at h
    · rw [← Option.some.inj h]
      exact List.dropWhile_suffix _
    · cases h

theorem foldlM_after?_suffix {ps : List Piece} {s rest : List Char}
    (h : ps.foldlM Piece.after? s = some rest) : rest <:+ s := by
  induction ps generalizing s with
  | nil => exact Option.some.inj h ▸ List.suffix_refl s
  | cons p ps ih =>
    simp only [List.foldlM_cons, Option.bind_eq_bind, Option.bind_eq_some_iff] at h
    obtain ⟨inside, hinside, hrest⟩ := h
    exact (ih hrest).trans (Piece.after?_suffix hinside)

theorem Operator.read?_suffix {o : Operator} {s rest : List Char} {link : Link}
    (h : o.read? s = some (link, rest)) : rest <:+ s := by
  simp only [Operator.read?, Option.map_eq_some_iff, Prod.mk.injEq] at h
  obtain ⟨r, hr, -, rfl⟩ := h
  exact foldlM_after?_suffix hr

theorem untilDashes?_suffix {s before rest : List Char}
    (h : untilDashes? s = some (before, rest)) : rest <:+ s := by
  induction s generalizing before with
  | nil => cases h
  | cons c s ih =>
    unfold untilDashes? at h
    split at h
    · obtain ⟨-, rfl⟩ := Prod.mk.inj (Option.some.inj h)
      exact List.suffix_refl _
    · simp only [Option.map_eq_some_iff, Prod.mk.injEq] at h
      obtain ⟨⟨before', rest'⟩, hr, -, rfl⟩ := h
      exact (ih hr).trans (List.suffix_cons c s)

theorem readLabelEnd?_suffix {s rest : List Char} {link : Link}
    (h : readLabelEnd? s = some (link, rest)) : rest <:+ s := by
  simp only [readLabelEnd?, Option.orElse_eq_orElse, Option.orElse_eq_or,
    Option.or_eq_some_iff] at h
  rcases h with h | ⟨-, h⟩ <;> exact Operator.read?_suffix h

theorem readLabelled?_suffix {s rest : List Char} {link : Link}
    (h : readLabelled? s = some (link, rest)) : rest <:+ s := by
  unfold readLabelled? at h
  split at h
  · cases h
  · next inside hinside =>
    simp only at h
    split at h
    · cases h
    · split at h
      · cases h
      · next label dashes hdashes =>
        simp only [Option.map_eq_some_iff, Prod.mk.injEq] at h
        obtain ⟨⟨link', rest'⟩, hend, -, rfl⟩ := h
        have hlabel : dashes <:+ inside :=
          (untilDashes?_suffix hdashes).trans (skipInlineBlanks_suffix inside)
        exact (readLabelEnd?_suffix hend).trans (hlabel.trans (afterStart?_suffix hinside))

theorem readLink?_suffix {s rest : List Char} {link : Link}
    (h : readLink? s = some (link, rest)) : rest <:+ s := by
  have key {os : List Operator} (h : os.findSome? (·.read? s) = some (link, rest)) :
      rest <:+ s := by
    obtain ⟨o, -, hread⟩ := List.exists_of_findSome?_eq_some h
    exact Operator.read?_suffix hread
  simp only [readLink?, Option.orElse_eq_orElse, Option.orElse_eq_or, Option.or_eq_some_iff] at h
  rcases h with h | ⟨-, h | ⟨-, h | ⟨-, h⟩⟩⟩
  · exact key h
  · exact key (Option.filter_eq_some_iff.1 h).1
  · exact Operator.read?_suffix h
  · exact readLabelled?_suffix h

theorem readPipeLabel?_suffix {s rest : List Char} {label : Option String}
    (h : readPipeLabel? s = some (label, rest)) : rest <:+ s := by
  unfold readPipeLabel? at h
  split at h
  · next s =>
    split at h
    · next c r hr =>
      obtain ⟨-, rfl⟩ := Prod.mk.inj (Option.some.inj h)
      have hbar : c :: r <:+ s := hr ▸ List.dropWhile_suffix _
      exact (List.suffix_cons c r).trans (hbar.trans (List.suffix_cons '|' s))
    · cases h
  · cases h

theorem readLinkWithLabel?_suffix {s rest : List Char} {link : Link}
    (h : readLinkWithLabel? s = some (link, rest)) : rest <:+ s := by
  simp only [readLinkWithLabel?, Option.map_eq_some_iff, Prod.exists] at h
  obtain ⟨operator, behind, hlink, h⟩ := h
  have hbehind := (skipInlineBlanks_suffix behind).trans (readLink?_suffix hlink)
  split at h
  · next hlabel =>
    rw [← (Prod.mk.inj h).2]
    exact (readPipeLabel?_suffix hlabel).trans hbehind
  · rw [← (Prod.mk.inj h).2]
    exact hbehind

/-! ## Targets -/

theorem readDefinition_suffix (s : List Char) : (readDefinition s).2 <:+ s := by
  unfold readDefinition
  split
  · next h => exact (skipInlineBlanks_suffix _).trans (readShape?_suffix h)
  · exact List.suffix_refl s

theorem readAfterWord_suffix (s : List Char) : (readAfterWord s).2 <:+ s :=
  (readDefinition_suffix _).trans ((skipInlineBlanks_suffix _).trans (afterWord_suffix s))

/-! ## Steps -/

/-- Where the reader of a chain stands. -/
inductive Cursor where
  /-- In front of a link that leads on from the sources. -/
  | link (sources : List String) (rest : List Char)
  /-- In front of one more target of the link. -/
  | target (sources : List String) (link : Link) (targets : List String) (rest : List Char)

namespace Cursor

/-- What is still to be read. -/
def rest : Cursor → List Char
  | link _ rest => rest
  | target _ _ _ rest => rest

def sources : Cursor → List String
  | link sources _ => sources
  | target sources _ _ _ => sources

/-- The targets that have been read since the last link. -/
def targets : Cursor → List String
  | link _ _ => []
  | target _ _ targets _ => targets

/-- A bound on the number of steps. In front of a target there is one more, since no target may be
there. -/
def room : Cursor → Nat
  | link _ rest => rest.length
  | target _ _ _ rest => rest.length + 1

end Cursor

/-- The reader of a chain, and the draft so far. -/
structure Reading where
  draft : Draft
  cursor : Cursor

namespace Reading

/-- The mention at the start of a text. -/
def mentionOf (s : List Char) : Mention :=
  ⟨String.ofList (word s), (readAfterWord s).1⟩

/-- One step reads a link, or one of its targets, or finds that there is no further target. -/
inductive Step : Reading → Reading → Prop where
  | link {d : Draft} {sources : List String} {link : Link} {s rest : List Char}
      (h : readLinkWithLabel? (skipInlineBlanks s) = some (link, rest)) :
      Step ⟨d, .link sources s⟩ ⟨d, .target sources link [] rest⟩
  /-- A target with an ampersand behind it. -/
  | another {d : Draft} {sources targets : List String} {link : Link} {s first rest : List Char}
      (hfirst : skipInlineBlanks s = first) (hword : word first ≠ [])
      (hrest : (readAfterWord first).2 = '&' :: rest) :
      Step ⟨d, .target sources link targets s⟩
        ⟨d.connectAll link sources (mentionOf first),
          .target sources link (targets ++ [(mentionOf first).id]) rest⟩
  /-- The last target. The next link leads on from all of them. -/
  | last {d : Draft} {sources targets : List String} {link : Link} {s first rest : List Char}
      (hfirst : skipInlineBlanks s = first) (hword : word first ≠ [])
      (hrest : (readAfterWord first).2 = rest) (hend : rest.head? ≠ some '&') :
      Step ⟨d, .target sources link targets s⟩
        ⟨d.connectAll link sources (mentionOf first),
          .link (targets ++ [(mentionOf first).id]) rest⟩
  /-- No target behind an ampersand. -/
  | missing {d : Draft} {sources targets : List String} {link : Link} {s first : List Char}
      (hfirst : skipInlineBlanks s = first) (hword : word first = []) (hne : targets ≠ []) :
      Step ⟨d, .target sources link targets s⟩ ⟨d, .link targets first⟩

/-- There is no further step. -/
def Ended (r : Reading) : Prop :=
  ∀ r', ¬ Step r r'

/-- A number of steps. -/
inductive Reaches : Nat → Reading → Reading → Prop where
  | zero {r : Reading} : Reaches 0 r r
  | step {n : Nat} {r r' r'' : Reading} (h : Step r r') (hn : Reaches n r' r'') :
      Reaches (n + 1) r r''

theorem Reaches.trans {m n : Nat} {r r' r'' : Reading} (h : Reaches m r r')
    (h' : Reaches n r' r'') : ∃ k, Reaches k r r'' := by
  induction h with
  | zero => exact ⟨n, h'⟩
  | step hstep _ ih =>
    obtain ⟨k, hk⟩ := ih h'
    exact ⟨k + 1, .step hstep hk⟩

/-! ## What a step leaves -/

/-- There are sources, and the sources and targets belong to nodes or subgraphs. -/
structure Known (r : Reading) : Prop where
  sources_ne_nil : r.cursor.sources ≠ []
  sources : ∀ id ∈ r.cursor.sources, r.draft.Knows id
  targets : ∀ id ∈ r.cursor.targets, r.draft.Knows id

/-- A step leaves a suffix of the text, and less room. -/
theorem Step.forward {r r' : Reading} (h : Step r r') :
    r'.cursor.rest <:+ r.cursor.rest ∧ r'.cursor.room < r.cursor.room := by
  cases h with
  | @link _ _ _ s rest h =>
    have hlength := length_readLinkWithLabel?_le h
    have hblanks := length_skipInlineBlanks_le s
    refine ⟨(readLinkWithLabel?_suffix h).trans (skipInlineBlanks_suffix s), ?_⟩
    simp only [Cursor.room]
    omega
  | @another _ _ _ _ s first rest hfirst hword hrest =>
    subst hfirst
    have hlength := length_readAfterWord_lt hword
    have hblanks := length_skipInlineBlanks_le s
    rw [hrest, List.length_cons] at hlength
    have hsuffix := (readAfterWord_suffix _).trans (skipInlineBlanks_suffix s)
    rw [hrest] at hsuffix
    refine ⟨(List.suffix_cons '&' rest).trans hsuffix, ?_⟩
    simp only [Cursor.room]
    omega
  | @last _ _ _ _ s first _ hfirst hword hrest hend =>
    subst hfirst hrest
    have hlength := length_readAfterWord_lt hword
    have hblanks := length_skipInlineBlanks_le s
    refine ⟨(readAfterWord_suffix _).trans (skipInlineBlanks_suffix s), ?_⟩
    simp only [Cursor.room]
    omega
  | @missing _ _ _ _ s first hfirst hword hne =>
    subst hfirst
    have hblanks := length_skipInlineBlanks_le s
    refine ⟨skipInlineBlanks_suffix s, ?_⟩
    simp only [Cursor.room]
    omega

theorem Step.known {r r' : Reading} (h : Step r r') (hknown : r.Known) : r'.Known := by
  obtain ⟨hne, hsources, htargets⟩ := hknown
  -- a target is known once it is connected, and what was known before stays so
  have hconnected (d : Draft) (link : Link) {sources targets : List String} (first : List Char)
      (hne : sources ≠ []) (htargets : ∀ id ∈ targets, d.Knows id) :
      ∀ id ∈ targets ++ [(mentionOf first).id],
        (d.connectAll link sources (mentionOf first)).Knows id := by
    intro id hid
    rcases List.mem_append.1 hid with hid | hid
    · exact (htargets id hid).connectAll link sources _
    · rw [List.mem_singleton.1 hid]
      exact Draft.knows_connectAll d link hne _
  cases h with
  | link h => exact ⟨hne, hsources, fun _ hid => absurd hid List.not_mem_nil⟩
  | another hfirst hword hrest =>
    exact ⟨hne, fun id hid => (hsources id hid).connectAll _ _ _,
      hconnected _ _ _ hne htargets⟩
  | last hfirst hword hrest hend =>
    exact ⟨List.append_ne_nil_of_right_ne_nil _ (List.cons_ne_nil _ _),
      hconnected _ _ _ hne htargets, fun _ hid => absurd hid List.not_mem_nil⟩
  | missing hfirst hword hne' =>
    exact ⟨hne', htargets, fun _ hid => absurd hid List.not_mem_nil⟩

/-- Any number of steps leaves a suffix of the text. There are no more steps than room. -/
theorem Reaches.forward {n : Nat} {r r' : Reading} (h : Reaches n r r') :
    r'.cursor.rest <:+ r.cursor.rest ∧ n + r'.cursor.room ≤ r.cursor.room := by
  induction h with
  | zero => exact ⟨List.suffix_refl _, (Nat.zero_add _).le⟩
  | step hstep _ ih =>
    obtain ⟨hsuffix, hroom⟩ := hstep.forward
    refine ⟨ih.1.trans hsuffix, ?_⟩
    have hrest := ih.2
    omega

theorem Reaches.known {n : Nat} {r r' : Reading} (h : Reaches n r r') (hknown : r.Known) :
    r'.Known := by
  induction h with
  | zero => exact hknown
  | step hstep _ ih => exact ih (hstep.known hknown)

/-! ## Where the steps end -/

theorem Step.unique {r r' r'' : Reading} (h : Step r r') (h' : Step r r'') : r' = r'' := by
  cases h with
  | link h =>
    cases h' with
    | link h' =>
      rw [h] at h'
      cases h'
      rfl
  | another hfirst hword hrest =>
    subst hfirst
    cases h' with
    | another hfirst' hword' hrest' =>
      subst hfirst'
      rw [hrest] at hrest'
      cases hrest'
      rfl
    | last hfirst' hword' hrest' hend =>
      subst hfirst' hrest'
      rw [hrest] at hend
      exact absurd rfl hend
    | missing hfirst' hword' => exact absurd (hfirst' ▸ hword') hword
  | last hfirst hword hrest hend =>
    subst hfirst hrest
    cases h' with
    | another hfirst' hword' hrest' =>
      subst hfirst'
      rw [hrest'] at hend
      exact absurd rfl hend
    | last hfirst' hword' hrest' =>
      subst hfirst' hrest'
      rfl
    | missing hfirst' hword' => exact absurd (hfirst' ▸ hword') hword
  | missing hfirst hword hne =>
    subst hfirst
    cases h' with
    | another hfirst' hword' => exact absurd (hfirst' ▸ hword) hword'
    | last hfirst' hword' => exact absurd (hfirst' ▸ hword) hword'
    | missing hfirst' hword' =>
      subst hfirst'
      rfl

theorem Reaches.unique {m n : Nat} {r r' r'' : Reading} (h : Reaches m r r') (hend : r'.Ended)
    (h' : Reaches n r r'') (hend' : r''.Ended) : r' = r'' := by
  induction h generalizing n with
  | zero =>
    cases h' with
    | zero => rfl
    | step hstep _ => exact absurd hstep (hend _)
  | step hstep _ ih =>
    cases h' with
    | zero => exact absurd hstep (hend' _)
    | step hstep' h' =>
      rw [hstep.unique hstep'] at ih
      exact ih hend h'

theorem readTargets_fst_ne_nil {s : List Char} (h : word (skipInlineBlanks s) ≠ []) :
    (readTargets s).1 ≠ [] := by
  rw [readTargets, dif_neg h]
  split <;> exact List.cons_ne_nil _ _

/-- A link without targets ends the reading. -/
theorem ended_of_word_eq_nil {s : List Char} (h : word (skipInlineBlanks s) = []) (d : Draft)
    (sources : List String) (link : Link) : Ended ⟨d, .target sources link [] s⟩ := by
  intro r' hstep
  cases hstep with
  | another hfirst hword => exact hword (hfirst ▸ h)
  | last hfirst hword => exact hword (hfirst ▸ h)
  | missing _ _ hne => exact hne rfl

/-- The steps through the targets of a link connect them all. -/
theorem exists_reaches_readTargets (sources : List String) (link : Link) (s : List Char)
    (d : Draft) (targets : List String) (h : targets ≠ [] ∨ word (skipInlineBlanks s) ≠ []) :
    ∃ n, Reaches n ⟨d, .target sources link targets s⟩
      ⟨(readTargets s).1.foldl (fun d target => d.connectAll link sources target) d,
        .link (targets ++ (readTargets s).1.map (·.id)) (readTargets s).2⟩ := by
  revert d targets h
  fun_induction readTargets s with
  | case1 s first hword =>
    intro d targets h
    rw [List.map_nil, List.append_nil]
    exact ⟨1, .step (.missing rfl hword (h.resolve_right (not_not.2 hword))) .zero⟩
  | case2 s first hword target rest hrest others ih =>
    intro d targets h
    have hne : targets ++ [target.id] ≠ [] :=
      List.append_ne_nil_of_right_ne_nil _ (List.cons_ne_nil _ _)
    obtain ⟨n, hn⟩ := ih (d.connectAll link sources target) _ (.inl hne)
    rw [List.append_assoc] at hn
    exact ⟨n + 1, .step (.another rfl hword hrest) hn⟩
  | case3 s first hword target hend =>
    intro d targets h
    have hamp : (readAfterWord first).2.head? ≠ some '&' := by
      intro h
      obtain ⟨rest, hrest⟩ := List.head?_eq_some_iff.1 h
      exact hend rest hrest
    exact ⟨1, .step (.last rfl hword rfl hamp) .zero⟩

/-- The steps through the links follow them all, and then end. -/
theorem exists_reaches_readHops (d : Draft) (sources : List String) (s : List Char) :
    ∃ n c, Reaches n ⟨d, .link sources s⟩ ⟨d.follow sources (readHops s), c⟩ ∧
      Ended ⟨d.follow sources (readHops s), c⟩ := by
  fun_induction readHops s generalizing d sources with
  | case1 s hlink =>
    refine ⟨0, .link sources s, .zero, fun r' h => ?_⟩
    cases h with
    | link h =>
      rw [hlink] at h
      cases h
  | case2 s link rest hlink targets hnone =>
    have hword : word (skipInlineBlanks rest) = [] := by
      by_contra hword
      exact readTargets_fst_ne_nil hword (List.isEmpty_iff.1 hnone)
    exact ⟨1, _, .step (.link hlink) .zero, ended_of_word_eq_nil hword d sources link⟩
  | case3 s link rest hlink targets hsome ih =>
    have hword : word (skipInlineBlanks rest) ≠ [] := by
      intro hword
      refine hsome (List.isEmpty_iff.2 ?_)
      show (readTargets rest).1 = []
      rw [readTargets, dif_pos hword]
    obtain ⟨m, hm⟩ := exists_reaches_readTargets sources link rest d [] (.inr hword)
    obtain ⟨n, c, hn, hend⟩ := ih
      (targets.1.foldl (fun d target => d.connectAll link sources target) d)
      (targets.1.map (·.id))
    obtain ⟨k, hk⟩ := hm.trans hn
    exact ⟨k + 1, c, .step (.link hlink) hk, hend⟩

/-- The steps from a reading. There are no more of them than characters are left; each leaves a
suffix of the text, and knows what it connects; and they end with the draft. -/
structure Terminates (r : Reading) (d : Draft) : Prop where
  bounded : ∀ n r', Reaches n r r' → n ≤ r.cursor.rest.length
  suffix : ∀ n r', Reaches n r r' → r'.cursor.rest <:+ r.cursor.rest
  known : ∀ n r', Reaches n r r' → r'.Known
  ends : ∃ n r', Reaches n r r' ∧ r'.Ended
  draft_eq : ∀ n r', Reaches n r r' → r'.Ended → r'.draft = d

theorem terminates_follow {d : Draft} {sources : List String} (hne : sources ≠ [])
    (hknown : ∀ id ∈ sources, d.Knows id) (s : List Char) :
    Terminates ⟨d, .link sources s⟩ (d.follow sources (readHops s)) where
  bounded _ _ h := (Nat.le_add_right _ _).trans h.forward.2
  suffix _ _ h := h.forward.1
  known _ _ h := h.known ⟨hne, hknown, fun _ hid => absurd hid List.not_mem_nil⟩
  ends := by
    obtain ⟨n, c, hn, hend⟩ := exists_reaches_readHops d sources s
    exact ⟨n, _, hn, hend⟩
  draft_eq n r' h hend := by
    obtain ⟨m, c, hm, hend'⟩ := exists_reaches_readHops d sources s
    rw [h.unique hend hm hend']

end Reading

/-! ## Lines -/

theorem Draft.knows_introduce (d : Draft) (m : Mention) : (d.introduce m).Knows m.id := by
  rcases introduce_cases d m with ⟨-, h⟩ | ⟨definition, -, h⟩ <;> rw [h]
  · exact knows_mention d m.id
  · exact knows_define d m.id definition

theorem Draft.knows_apply_of_mentions {d : Draft} (h : d.WellFormed) {s : Statement}
    (hs : s.HasTargets) {id : String} (hid : s.Mentions id) : (d.apply s).Knows id := by
  rw [knows_iff, mem_nodeIds_apply h hs, mem_subgraphIds_apply hs]
  by_cases hmem : id ∈ d.flowchart.subgraphIds
  · exact .inr (.inl hmem)
  · exact .inl (.inr ⟨hid, hmem⟩)

/-- The texts from which the links of a line are read: what follows the definition of its first word,
or else an operator behind that word. -/
inductive LinksFrom (line : List Char) : List Char → Prop where
  | definition {definition : NodeShape} {rest : List Char}
      (h : readShape? (skipInlineBlanks (afterWord line)) = some (definition, rest)) :
      LinksFrom line rest
  | operator {rest : List Char} (hrest : skipInlineBlanks (afterWord line) = rest)
      (h : startsLink rest = true) : LinksFrom line rest

section LinksFrom

variable {line s : List Char} {first : Mention} {hops : List Hop}

theorem LinksFrom.suffix (h : LinksFrom line s) : s <:+ afterWord line := by
  cases h with
  | definition h => exact (readShape?_suffix h).trans (skipInlineBlanks_suffix _)
  | operator hrest => exact hrest ▸ skipInlineBlanks_suffix _

/-- No text begins like a definition and like an operator. -/
theorem startsLink_eq_false (h : startsShape s = true) : startsLink s = false := by
  cases s with
  | nil => rfl
  | cons c s =>
    simp only [startsShape, Bool.or_eq_true, beq_iff_eq] at h
    rcases h with ((rfl | rfl) | rfl) | rfl <;> rfl

theorem readShape?_eq_none_of_startsLink (h : startsLink s = true) : readShape? s = none := by
  refine readShape?_eq_none (Bool.eq_false_iff.2 fun hshape => ?_)
  rw [startsLink_eq_false hshape] at h
  cases h

/-- The links of a line are read from one text at most. -/
theorem LinksFrom.unique {s' : List Char} (h : LinksFrom line s) (h' : LinksFrom line s') :
    s = s' := by
  cases h with
  | definition h =>
    cases h' with
    | definition h' =>
      rw [h] at h'
      cases h'
      rfl
    | operator hrest hstart =>
      rw [hrest, readShape?_eq_none_of_startsLink hstart] at h
      cases h
  | operator hrest hstart =>
    cases h' with
    | definition h' =>
      rw [hrest, readShape?_eq_none_of_startsLink hstart] at h'
      cases h'
    | operator hrest' => exact hrest.symm.trans hrest'

/-- The links of a chain are read from such a text, or there is none and the chain has no links. -/
theorem linksFrom_of_readChain
    (h : readChain (word line) (afterWord line) = .chain first hops) :
    (∃ s, LinksFrom line s ∧ hops = readHops s) ∨ (∀ s, ¬ LinksFrom line s) ∧ hops = [] := by
  unfold readChain at h
  simp only at h
  split at h
  · split at h
    · next hread =>
      cases h
      exact .inl ⟨_, .definition hread, rfl⟩
    · cases h
  next hshape =>
    split at h
    · next hstart =>
      cases h
      exact .inl ⟨_, .operator rfl hstart, rfl⟩
    · next hstart =>
      refine .inr ⟨fun s hs => ?_, ?_⟩
      · cases hs with
        | definition hread =>
          rw [readShape?_eq_none (Bool.eq_false_iff.2 hshape)] at hread
          cases hread
        | operator hrest hstart' => exact hstart (hrest ▸ hstart')
      · split at h <;> cases h
        all_goals rfl

theorem readHops_of_readChain
    (h : readChain (word line) (afterWord line) = .chain first hops) :
    (∀ s, LinksFrom line s → hops = readHops s) ∧ ((∀ s, ¬ LinksFrom line s) → hops = []) := by
  rcases linksFrom_of_readChain h with ⟨s, hs, hhops⟩ | ⟨hnone, hhops⟩
  · exact ⟨fun s' hs' => hs.unique hs' ▸ hhops, fun hnone => absurd hs (hnone s)⟩
  · exact ⟨fun s hs => absurd hs (hnone s), fun _ => hhops⟩

/-- The chain of a line is read from what follows its first word. -/
theorem readChain_of_ofLine (h : Statement.ofLine line = .chain first hops) :
    word line ≠ [] ∧ readChain (word line) (afterWord line) = .chain first hops := by
  cases saidBy_ofLine line with
  | chain hne hread => exact ⟨hne, hread.symm.trans h⟩
  | heading _ hread =>
    rw [hread] at h
    rcases readHeading_cases (afterWord line) with hheading | ⟨_, _, hheading⟩ <;>
      rw [hheading] at h <;> cases h
  | blank hread => cases hread.symm.trans h
  | endSubgraph hread => cases hread.symm.trans h
  | style _ hread => cases hread.symm.trans h
  | direction _ hread => cases hread.symm.trans h

/-- What the links are read from is shorter than the line. -/
theorem LinksFrom.length_lt (h : LinksFrom line s) (hword : word line ≠ []) :
    s.length < line.length := by
  have hlength := length_word_add_afterWord line
  have hpos := List.length_pos_iff.2 hword
  have hle := h.suffix.length_le
  omega

end LinksFrom

/-- An opening bracket behind the first word of a line begins a definition of the word. -/
theorem ofLine_openingBracket {w gap : List Char} (hw : IsIdentifier w)
    (hword : String.ofList (w.map Char.toLower) ∉ statementKeywords) (hgap : IsGap gap) {c : Char}
    (hc : c ∈ ['[', '(', '{', '>']) (s : List Char) :
    ∃ definition rest, rest <:+ s ∧ Statement.ofLine (w ++ (gap ++ c :: s)) =
      .chain ⟨String.ofList w, some definition⟩ (readHops rest) := by
  have hnot : isWordChar c = false ∧ isInlineBlank c = false ∧ startsShape (c :: s) = true := by
    simp only [List.mem_cons, List.not_mem_nil, or_false] at hc
    rcases hc with rfl | rfl | rfl | rfl <;>
      exact ⟨isWordChar_eq_false_of_mem (by simp), by decide, rfl⟩
  obtain ⟨hends, hblank, hshape⟩ := hnot
  obtain ⟨definition, rest, hread, hsuffix⟩ := exists_readShape?_of_mem hc s
  have hskip : skipInlineBlanks (gap ++ c :: s) = c :: s := by
    rw [skipInlineBlanks_gap hgap, skipInlineBlanks_eq_self (by rintro _ ⟨⟩; exact hblank)]
  refine ⟨definition, rest, hsuffix, ?_⟩
  rw [ofLine_identifier hw (isWordChar_head?_gap hgap (by rintro _ ⟨⟩; exact hends)) hword]
  simp only [readChain, hskip, hshape, hread, if_true]

/-- Reading goes forward. Every text with an opening bracket begins with a shape definition, which
takes the bracket at least; an operator takes two characters at least; and what is left is a suffix.
So, whatever lines were read before it, a line makes its ids known, also behind such a bracket, and
wherever its links are read from, they are read in fewer steps than it has characters, even if the
first operator leads nowhere. -/
theorem reading_forward :
    (∀ c ∈ ['[', '(', '{', '>'], ∀ s : List Char, ∃ definition rest,
      readShape? (c :: s) = some (definition, rest) ∧ rest <:+ s) ∧
    (∀ (s rest : List Char) (link : Link), readLink? s = some (link, rest) →
      rest <:+ s ∧ rest.length + 2 ≤ s.length) ∧
    ∀ (direction : Direction) (lines : List (List Char)) (line : List Char),
      let d := lines.foldl Draft.readLine (Draft.start direction)
      (∀ id, (Statement.ofLine line).Mentions id → (d.readLine line).Knows id) ∧
      (∀ (w gap s : List Char) (c : Char), line = w ++ (gap ++ c :: s) → IsIdentifier w →
        String.ofList (w.map Char.toLower) ∉ statementKeywords → IsGap gap →
        c ∈ ['[', '(', '{', '>'] → (d.readLine line).Knows (String.ofList w)) ∧
      ∀ (first : Mention) (hops : List Hop), Statement.ofLine line = .chain first hops →
        (∀ s, LinksFrom line s → s <:+ line ∧ s.length < line.length ∧ hops = readHops s ∧
          Reading.Terminates ⟨d.introduce first, .link [first.id] s⟩ (d.readLine line)) ∧
        ((∀ s, ¬ LinksFrom line s) → hops = []) := by
  refine ⟨fun c hc s => exists_readShape?_of_mem hc s,
    fun s rest link h => ⟨readLink?_suffix h, length_readLink?_le h⟩,
    fun direction lines line => ?_⟩
  intro d
  have hknown (id : String) (hid : (Statement.ofLine line).Mentions id) :
      (d.readLine line).Knows id :=
    Draft.knows_apply_of_mentions ((Draft.wellFormed_start direction).readLines lines)
      (hasTargets_ofLine line) hid
  refine ⟨hknown, ?_, fun first hops hline => ?_⟩
  · rintro w gap s c rfl hw hword hgap hc
    obtain ⟨definition, rest, -, hline⟩ := ofLine_openingBracket hw hword hgap hc s
    refine hknown _ ?_
    rw [hline]
    exact ⟨_, List.mem_cons_self, rfl⟩
  · obtain ⟨hword, hchain⟩ := readChain_of_ofLine hline
    obtain ⟨hread, hnone⟩ := readHops_of_readChain hchain
    refine ⟨fun s hs => ⟨hs.suffix.trans (afterWord_suffix line), hs.length_lt hword, hread s hs, ?_⟩,
      hnone⟩
    rw [Draft.readLine, hline, Draft.apply_chain, hread s hs]
    refine Reading.terminates_follow (List.cons_ne_nil _ _) ?_ s
    exact List.forall_mem_singleton.2 (d.knows_introduce first)

/-- In the first line there is no target behind the ampersand, and the last bracket is not closed. In
the second one there is no target behind the first operator. -/
theorem reading_forward_unclosedLine :
    let d := Draft.start .topToBottom
    let line := "A(x) --> B & --> C\x7by & D --".toList
    let dangling := "A -->".toList
    (∀ id ∈ ["A", "B", "C"], (d.readLine line).Knows id) ∧
      (∃ first, LinksFrom line " --> B & --> C\x7by & D --".toList ∧
        Reading.Terminates ⟨d.introduce first, .link [first.id] " --> B & --> C\x7by & D --".toList⟩
          (d.readLine line)) ∧
      ∃ first, Statement.ofLine dangling = .chain first [] ∧ LinksFrom dangling "-->".toList ∧
        Reading.Terminates ⟨d.introduce first, .link [first.id] "-->".toList⟩
          (d.readLine dangling) := by
  intro d line dangling
  obtain ⟨hknown, -, hsteps⟩ := reading_forward.2.2 .topToBottom [] line
  have hids : (Statement.ofLine line).mentions.map (·.id) = ["A", "B", "C"] := by decide +kernel
  refine ⟨fun id hid => ?_, ?_, ?_⟩
  · rw [← hids] at hid
    obtain ⟨m, hm, rfl⟩ := List.mem_map.1 hid
    exact hknown m.id ⟨m, hm, rfl⟩
  · have hread : (readShape? (skipInlineBlanks (afterWord line))).map (·.2) =
        some " --> B & --> C\x7by & D --".toList := by decide +kernel
    obtain ⟨⟨definition, rest⟩, hshape, rfl⟩ := Option.map_eq_some_iff.1 hread
    cases hline : Statement.ofLine line with
    | chain first hops =>
      exact ⟨first, .definition hshape, ((hsteps first hops hline).1 _ (.definition hshape)).2.2.2⟩
    | _ =>
      rw [hline] at hids
      cases hids
  · have hmentions : ((Statement.ofLine dangling).mentions.map (·.id)) = ["A"] := by decide +kernel
    have hnone : readHops "-->".toList = [] := by decide +kernel
    have hlinks : LinksFrom dangling "-->".toList := .operator (by decide +kernel) rfl
    cases hline : Statement.ofLine dangling with
    | chain first hops =>
      obtain ⟨-, -, hhops, hterminates⟩ :=
        ((reading_forward.2.2 .topToBottom [] dangling).2.2 first hops hline).1 _ hlinks
      exact ⟨first, by rw [hhops, hnone], hlinks, hterminates⟩
    | _ =>
      rw [hline] at hmentions
      cases hmentions

end FlowchartLayout.Source

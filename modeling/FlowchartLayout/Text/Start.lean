/-!
# Fixed characters at the start of a text

## Main definitions

- `afterStart?` — what follows given characters, if a text begins with them
- `dropStart` — the text without them
-/

namespace FlowchartLayout

/-- What follows `start` at the beginning of a text. -/
def afterStart? : (start s : List Char) → Option (List Char)
  | [], s => some s
  | c :: start, d :: s => if c = d then afterStart? start s else none
  | _ :: _, [] => none

/-- What follows `start` at the beginning of a text, or the text itself if it begins otherwise. -/
def dropStart (start s : List Char) : List Char :=
  (afterStart? start s).getD s

theorem eq_append_of_afterStart? {start s rest : List Char} (h : afterStart? start s = some rest) :
    s = start ++ rest := by
  fun_induction afterStart? start s with
  | case1 s => exact Option.some.inj h
  | case2 start d s ih => rw [ih h, List.cons_append]
  | case3 => cases h
  | case4 => cases h

theorem length_of_afterStart? {start s rest : List Char} (h : afterStart? start s = some rest) :
    rest.length + start.length = s.length := by
  rw [eq_append_of_afterStart? h, List.length_append, Nat.add_comm]

theorem length_dropStart_le (start s : List Char) :
    (dropStart start s).length ≤ s.length := by
  unfold dropStart
  cases h : afterStart? start s with
  | none => exact Nat.le_refl _
  | some rest =>
    have := length_of_afterStart? h
    simp only [Option.getD_some]
    omega

end FlowchartLayout

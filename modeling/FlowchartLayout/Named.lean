/-!
# Vocabularies

A finite type each value of which has a name of its own in documents and answers.

## Main definitions

- `Named` — the values of a type in order, and their names
- `Named.ofName?` — the value with a given name
-/

namespace FlowchartLayout

/-- The values of a finite type and the names they are written with. -/
class Named (α : Type) where
  values : List α
  name : α → String

namespace Named

variable {α : Type} [Named α]

/-- The value that bears the name. Case matters. -/
def ofName? (s : String) : Option α :=
  (values : List α).find? fun a => name a == s

/-- All names, in order. -/
def names (α : Type) [Named α] : List String :=
  (values : List α).map name

end Named

end FlowchartLayout

/-! # First occurrences

`distinctBy key l` keeps the first item of each key and drops the later ones. -/

namespace Bindery

variable {α β : Type} [DecidableEq β]

/-- The items whose key is not among those seen, and does not occur before. -/
def distinctFrom (key : α → β) (seen : List β) : List α → List α
  | [] => []
  | a :: rest =>
    if key a ∈ seen then distinctFrom key seen rest
    else a :: distinctFrom key (key a :: seen) rest

/-- The first item of each key, in order. -/
def distinctBy (key : α → β) (items : List α) : List α :=
  distinctFrom key [] items

/-- The first occurrence of each item, in order. -/
def distinct (items : List β) : List β :=
  distinctBy id items

end Bindery

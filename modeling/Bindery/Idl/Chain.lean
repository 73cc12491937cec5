/-! # Chains

`chain` follows a partial step from a start and lists what it meets, up to the first place where
there is no step or where a name would occur a second time.  Renaming tables, lineages and class
hierarchies are followed in this way. -/

namespace Bindery

variable {α : Type}

/-- What a step meets from `start` on, as long as no name repeats; at most `fuel` of it. -/
def chainFrom (name : α → String) (next : α → Option α) : Nat → List String → α → List α
  | 0, _, _ => []
  | fuel + 1, seen, start =>
    match next start with
    | none => []
    | some met =>
      if seen.contains (name met) then []
      else met :: chainFrom name next fuel (name met :: seen) met

/-- What a step meets behind `start`, which is not itself listed. -/
def chain (name : α → String) (next : α → Option α) (fuel : Nat) (start : α) : List α :=
  chainFrom name next fuel [name start] start

end Bindery

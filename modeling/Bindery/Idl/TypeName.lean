import Bindery.SortedMap
import Bindery.Text.Word

/-! # Type names

A type is referred to by a name that may be qualified by modules (`dom::Node`) and may be applied to
one argument (`sequence<Node>`).  `TypeName.unqualified` drops the modules of the outermost name,
`TypeName.split?` takes an application apart, and the remaining definitions classify names, decide
whether a name resolves against the known interfaces, and rename the parts of a name by a table. -/

namespace Bindery

/-- The name by which a type is referred to. -/
abbrev TypeName := String

namespace TypeName

/-! ### Qualification -/

/-- What follows the last `::` before the first `<`. -/
def afterModules? : List Char → Option (List Char)
  | [] => none
  | c :: rest =>
    if c = '<' then none
    else match afterModules? rest with
      | some tail => some tail
      | none =>
        match c, rest with
        | ':', ':' :: tail => some tail
        | _, _ => none

/-- The name without the modules of its outermost part; type arguments keep theirs. -/
def unqualified (t : TypeName) : String :=
  match afterModules? t.toList with
  | some tail => String.ofList tail
  | none => t

/-! ### Application -/

/-- Characters of the outer name of an application. -/
def isHeadChar (c : Char) : Bool :=
  Text.isWord c || c = '.' || c = ':'

/-- Characters of the argument of an application. -/
def isArgumentChar (c : Char) : Bool :=
  isHeadChar c || c = '<' || c = '>' || c = ' '

/-- Takes the characters of `Outer<Inner>` apart. -/
def splitChars? (cs : List Char) : Option (List Char × List Char) :=
  let outer := cs.takeWhile (· ≠ '<')
  match cs.dropWhile (· ≠ '<') with
  | [] => none
  | _ :: rest =>
    let inner := rest.dropLast
    if rest.getLast? = some '>' ∧ outer ≠ [] ∧ inner ≠ [] ∧ outer.all isHeadChar = true ∧
        inner.all isArgumentChar = true then
      some (outer, inner)
    else none

/-- Takes `Outer<Inner>` apart into the outer name and its argument. -/
def split? (t : TypeName) : Option (TypeName × TypeName) :=
  (splitChars? t.toList).map fun (outer, inner) => (String.ofList outer, String.ofList inner)

theorem length_of_splitChars? {cs outer inner : List Char}
    (h : splitChars? cs = some (outer, inner)) :
    outer.length + inner.length + 2 = cs.length := by
  have whole : cs.takeWhile (· ≠ '<') ++ cs.dropWhile (· ≠ '<') = cs :=
    List.takeWhile_append_dropWhile
  unfold splitChars? at h
  split at h
  · simp at h
  · next c rest hrest =>
    simp only [Option.ite_none_right_eq_some] at h
    obtain ⟨⟨_, _, hinner, _, _⟩, h⟩ := h
    simp only [Option.some.injEq, Prod.mk.injEq] at h
    obtain ⟨rfl, rfl⟩ := h
    have hlen := congrArg List.length whole
    rw [hrest] at hlen
    simp only [List.length_append, List.length_cons] at hlen
    have hrest : rest ≠ [] := fun e => hinner (by simp [e])
    have := List.length_pos_iff.mpr hrest
    rw [List.length_dropLast]
    omega

theorem length_of_split? {t outer inner : TypeName} (h : split? t = some (outer, inner)) :
    outer.length + inner.length + 2 = t.length := by
  simp only [split?, Option.map_eq_some_iff, Prod.exists, Prod.mk.injEq] at h
  obtain ⟨o, i, h, rfl, rfl⟩ := h
  have := length_of_splitChars? h
  simpa [String.length_toList] using this

/-! ### Classes of names -/

/-- Types that need no interface. -/
def primitives : List TypeName :=
  ["any", "boolean", "byte", "octet", "short", "unsigned short", "long", "unsigned long",
   "long long", "unsigned long long", "int", "float", "double", "unrestricted float",
   "unrestricted double", "DOMString", "DOMTimeStamp", "String", "Date", "object", "Object", "void"]

/-- Containers.  They may stand as parents, and no walk over parents goes beyond them. -/
def containers : List TypeName :=
  ["List", "Collection", "sequence"]

/-- Whether a name needs no interface. -/
def isPrimitive (t : TypeName) : Bool :=
  primitives.contains t

/-- Whether a name, applied or not, is that of a container. -/
def isContainer (t : TypeName) : Bool :=
  let head := match split? t with
    | some (outer, _) => outer
    | none => t
  containers.contains (unqualified head)

/-- The argument of an applied container. -/
def element? (t : TypeName) : Option TypeName :=
  match split? t with
  | some (outer, inner) => if containers.contains (unqualified outer) then some inner else none
  | none => none

/-! ### Resolution and renaming -/

/-- Whether a name is primitive, bare container, known once unqualified, or the application of such
a name to such a name. -/
def isResolvable (known : String → Bool) (t : TypeName) : Bool :=
  if isPrimitive t || containers.contains t || known (unqualified t) then true
  else
    match _h : split? t with
    | some (outer, inner) => isResolvable known outer && isResolvable known inner
    | none => false
termination_by t.length
decreasing_by
  all_goals have := length_of_split? _h; omega

/-- The name a table gives to a type: the entry of the unqualified name, or the application with its
parts renamed if the table has an entry for one of them. -/
def renamed? (table : SortedMap String String) (t : TypeName) : Option TypeName :=
  match table.find? (unqualified t) with
  | some new => some new
  | none =>
    match _h : split? t with
    | none => none
    | some (outer, inner) =>
      match renamed? table outer, renamed? table inner with
      | none, none => none
      | newOuter, newInner => some (newOuter.getD outer ++ "<" ++ newInner.getD inner ++ ">")
termination_by t.length
decreasing_by
  all_goals have := length_of_split? _h; omega

def rename (table : SortedMap String String) (t : TypeName) : TypeName :=
  (renamed? table t).getD t

end TypeName

end Bindery

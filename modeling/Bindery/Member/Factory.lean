import Bindery.Error
import Bindery.Member.Overload
import Bindery.Text.Case

/-! # Factories

The factory root gets a creation method for each element type, and the global root gets factories
for typed arrays and for interfaces with a constructor.  `FactoryNaming` says how the identifier of
an element type turns into a method name and a tag. -/

namespace Bindery

/-! ### Creation methods -/

/-- Element types whose identifiers start alike, and that are created in a namespace. -/
structure ElementGroup where
  /-- What the identifiers start with. -/
  start : String
  /-- The root type of the group. -/
  root : String
  /-- What stands for the root type in names. -/
  rootName : String
  /-- The namespace of the elements. -/
  namespaceUri : String
  /-- The overlay method that creates an element of the namespace. -/
  helper : String
  deriving DecidableEq

/-- How element types turn into creation methods. -/
structure FactoryNaming where
  /-- What the identifiers of element types end with. -/
  suffix : String := "Element"
  /-- Types that are never created. -/
  excluded : List String := ["Element", "SVGElement"]
  /-- Irregular tags, by the regular ones. -/
  tags : SortedMap String String := SortedMap.ofList [("tablecaption", "caption")]
  groups : List ElementGroup :=
    [⟨"SVG", "SVGSVGElement", "SVG", "http://www.w3.org/2000/svg", "createSvgElement"⟩]
  deriving DecidableEq

structure FactoryMethod where
  method : String
  /-- The identifier of the type that is created. -/
  element : String
  tag : String
  group : Option ElementGroup
  deriving DecidableEq

/-- Drops as many characters as fill a number of bytes, which must end with a character. -/
def dropBytes? : Nat → List Char → Option (List Char)
  | 0, cs => some cs
  | _, [] => none
  | n, c :: rest => if c.utf8Size ≤ n then dropBytes? (n - c.utf8Size) rest else none

/-- What is left of a text once its ending is removed. -/
def withoutSuffix? (suffix text : String) : Option String :=
  let cs := text.toList
  let ending := suffix.toList
  if ending.isSuffixOf cs then some (String.ofList (cs.take (cs.length - ending.length))) else none

namespace FactoryNaming

/-- The name and the regular tag of an element type of which the identifier without suffix is
given. -/
def nameAndTag (group : Option ElementGroup) (id base : String) : String × String :=
  match group with
  | none => (base, Text.lower base)
  | some g =>
    if g.root = id then (g.rootName, Text.lower g.rootName)
    else
      let tag := (dropBytes? g.start.utf8ByteSize (Text.lower base).toList).getD []
      (base, String.ofList tag)

/-- The creation method of an identifier, if it is that of an element type. -/
def method? (naming : FactoryNaming) (id : String) : Option FactoryMethod :=
  match withoutSuffix? naming.suffix id with
  | none => none
  | some base =>
    if base = "" ∨ id ∈ naming.excluded then none
    else
      let group := naming.groups.find? fun g => g.start.toList.isPrefixOf id.toList
      let (name, tag) := nameAndTag group id base
      some ⟨"create" ++ name, id, (naming.tags.find? tag).getD tag, group⟩

/-- The creation methods of the element types of a graph. -/
def methods (naming : FactoryNaming) (g : Graph) : List FactoryMethod :=
  g.interfaces.filterMap fun i => naming.method? i.id

end FactoryNaming

/-! ### Factories of the global root -/

/-- The factories of a typed array: by length, from a list, and from a buffer. -/
structure TypedArrayFactory where
  interface : String
  jsName : String
  /-- The type of the list. -/
  listType : TypeName
  deriving DecidableEq

def TypedArrayFactory.method (f : TypedArrayFactory) : String :=
  "new" ++ f.interface

/-- The factories of an interface that is a typed array. -/
def TypedArrayFactory.ofInterface (i : Interface) : TypedArrayFactory :=
  { interface := i.id
    jsName := i.bindingName
    listType :=
      if "Float".toList.isPrefixOf i.id.toList then "sequence<double>" else "sequence<long>" }

namespace Graph

def typedArrays (g : Graph) : List Interface :=
  g.interfaces.filter g.isTypedArray

/-- The typed array factories of the global root, which need the interface of buffers. -/
def typedArrayFactories (g : Graph) (globalRoot : String) : Except Error (List TypedArrayFactory) :=
  match g.typedArrays with
  | [] => .ok []
  | first :: rest =>
    if g.contains buffer then .ok ((first :: rest).map TypedArrayFactory.ofInterface)
    else .error (.missingInterface buffer (globalRoot ++ ".new" ++ first.id))

/-- The constructors of a graph that are not those of typed arrays. -/
def constructorSets (g : Graph) : List ConstructorSet :=
  (g.interfaces.filter fun i => !g.isTypedArray i).filterMap Interface.constructorSet?

end Graph

end Bindery

import Bindery.Document
import Bindery.Idl.TypeName

/-! # Interfaces

An `Interface` is a named contract with parents, attributes, operations and constants.  Its first
parent is the primary one, the only one a class can extend; the others are secondary.  Parents,
members and the interface itself carry annotations, one record of properties per platform name, and
extended attributes, which are flags with an optional value. -/

namespace Bindery

/-! ### Annotations and extended attributes -/

/-- The properties that one annotation gives. -/
abbrev Annotation := SortedMap String Value

/-- The annotations of an interface, parent or member, by annotation name. -/
abbrev Annotations := SortedMap String Annotation

/-- Extended attributes; a flag has no value. -/
abbrev Extensions := SortedMap String (Option String)

namespace Annotation

/-- Whether what carries the annotation has moved to another interface. -/
def isDisplaced (a : Annotation) : Bool :=
  a.contains "via"

def isSuppressed (a : Annotation) : Bool :=
  a.contains "suppressed"

end Annotation

/-- The name under which a member is emitted: the value of its `DartName`, or else its own name. -/
def Extensions.emittedName (extensions : Extensions) (id : String) : String :=
  ((extensions.find? "DartName").join).getD id

/-! ### Members -/

structure Parent where
  type : TypeName
  annotations : Annotations := SortedMap.empty
  deriving DecidableEq

/-- An argument of an operation or constructor. -/
structure Argument where
  id : String
  type : TypeName
  /-- Whether the argument may be left out. -/
  optional : Bool := false
  deriving DecidableEq

/-- One half of an accessor, or both halves. -/
structure Attribute where
  id : String
  type : TypeName
  isGetter : Bool := true
  isSetter : Bool := false
  /-- A replaceable setter counts as absent. -/
  replaceable : Bool := false
  getRaises : Option TypeName := none
  setRaises : Option TypeName := none
  annotations : Annotations := SortedMap.empty
  extensions : Extensions := SortedMap.empty
  deriving DecidableEq

/-- An operation with its arguments; `type` is what it returns. -/
structure Operation where
  id : String
  type : TypeName
  arguments : List Argument := []
  isStatic : Bool := false
  raises : Option TypeName := none
  annotations : Annotations := SortedMap.empty
  extensions : Extensions := SortedMap.empty
  deriving DecidableEq

/-- A constant with the text of its value. -/
structure Constant where
  id : String
  type : TypeName
  value : String
  annotations : Annotations := SortedMap.empty
  deriving DecidableEq

namespace Attribute

/-- The name used for the emitted accessors. -/
def emittedName (a : Attribute) : String :=
  a.extensions.emittedName a.id

/-- Whether the attribute has a setter that is emitted. -/
def hasSetter (a : Attribute) : Bool :=
  a.isSetter && !a.replaceable

def types (a : Attribute) : List TypeName :=
  a.type :: (a.getRaises.toList ++ a.setRaises.toList)

def mapTypes (f : TypeName → TypeName) (a : Attribute) : Attribute :=
  { a with type := f a.type, getRaises := a.getRaises.map f, setRaises := a.setRaises.map f }

end Attribute

namespace Operation

def emittedName (o : Operation) : String :=
  o.extensions.emittedName o.id

def argumentTypes (o : Operation) : List TypeName :=
  o.arguments.map (·.type)

/-- Return type, emitted name and argument types as one text, which tells overloads apart. -/
def signature (o : Operation) : String :=
  o.type ++ " " ++ o.emittedName ++ "(" ++ String.intercalate ", " o.argumentTypes ++ ")"

def types (o : Operation) : List TypeName :=
  o.type :: (o.argumentTypes ++ o.raises.toList)

def mapTypes (f : TypeName → TypeName) (o : Operation) : Operation :=
  { o with
    type := f o.type
    arguments := o.arguments.map fun a => { a with type := f a.type }
    raises := o.raises.map f }

end Operation

/-! ### Interfaces -/

/-- A named contract. -/
structure Interface where
  id : String
  /-- The primary parent, then the secondary ones. -/
  parents : List Parent := []
  attributes : List Attribute := []
  operations : List Operation := []
  constants : List Constant := []
  annotations : Annotations := SortedMap.empty
  extensions : Extensions := SortedMap.empty
  /-- The module, which decides the emitted package. -/
  module : Option String := none
  /-- The name of the JavaScript constructor, where it differs from the identifier. -/
  jsName : Option String := none
  /-- The arguments of the constructor, if there is one. -/
  constructorArguments : Option (List Argument) := none
  deriving DecidableEq

namespace Interface

/-- The parent that a class can extend. -/
def primaryParent? (i : Interface) : Option Parent :=
  i.parents.head?

/-- All parents but the primary one. -/
def secondaryParents (i : Interface) : List Parent :=
  i.parents.tail

/-- Whether a type is declared as a parent, under exactly this name. -/
def hasParent (i : Interface) (type : TypeName) : Bool :=
  i.parents.any (·.type = type)

def hasAttribute (i : Interface) (name : String) : Bool :=
  i.attributes.any (·.id = name)

def hasOperation (i : Interface) (name : String) : Bool :=
  i.operations.any (·.id = name)

/-- Whether an extended attribute is set, with or without a value. -/
def hasExtension (i : Interface) (name : String) : Bool :=
  i.extensions.contains name

/-- The name of the JavaScript constructor. -/
def bindingName (i : Interface) : String :=
  i.jsName.getD i.id

/-- The element type of the first parent that is an applied container. -/
def elementType? (i : Interface) : Option TypeName :=
  i.parents.findSome? fun p => TypeName.element? p.type

/-- Adds an attribute unless one of its name is there. -/
def addAttribute (attributes : List Attribute) (a : Attribute) : List Attribute :=
  if attributes.any (·.id = a.id) then attributes else attributes ++ [a]

/-- Takes over the members of another interface: all operations and constants, and each attribute
whose name is not taken when its turn comes. -/
def merge (i other : Interface) : Interface :=
  { i with
    operations := i.operations ++ other.operations
    attributes := other.attributes.foldl addAttribute i.attributes
    constants := i.constants ++ other.constants }

/-- Every type the interface mentions: parents, attributes, operations, constants, and arguments of
the constructor. -/
def types (i : Interface) : List TypeName :=
  i.parents.map (·.type) ++ i.attributes.flatMap Attribute.types ++
    i.operations.flatMap Operation.types ++ i.constants.map (·.type) ++
    (i.constructorArguments.getD []).map (·.type)

def mapTypes (f : TypeName → TypeName) (i : Interface) : Interface :=
  { i with
    parents := i.parents.map fun p => { p with type := f p.type }
    attributes := i.attributes.map (Attribute.mapTypes f)
    operations := i.operations.map (Operation.mapTypes f)
    constants := i.constants.map fun c => { c with type := f c.type }
    constructorArguments := i.constructorArguments.map fun args =>
      args.map fun a => { a with type := f a.type } }

/-- The exceptions that accessors and operations raise. -/
def raisedTypes (i : Interface) : List TypeName :=
  i.attributes.flatMap (fun a => a.getRaises.toList ++ a.setRaises.toList) ++
    i.operations.filterMap (·.raises)

end Interface

end Bindery

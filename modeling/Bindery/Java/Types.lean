import Bindery.Idl.Role

/-! # Java types

Contracts live in `{base}.{module}` and overlay classes, whose names start with `Js`, in
`{base}.js.{module}`.  An overlay class returns overlay types and accepts contract types.  A
callback has no overlay, so it is always referred to by its contract.  `TypeMap.map` finds the Java
type of an IDL type. -/

namespace Bindery.Java

/-- The place in which a type is mentioned. -/
inductive Flavor where
  /-- A contract, in any position. -/
  | contract
  /-- An overlay class, as what a method returns. -/
  | overlayReturn
  /-- An overlay class, as what a method accepts. -/
  | overlayParameter
  deriving DecidableEq

/-- A Java type with the qualified name that has to be imported for it, if any. -/
structure JavaType where
  name : String
  imported : Option String
  deriving DecidableEq

namespace JavaType

/-- A type that needs no import. -/
def builtin (name : String) : JavaType :=
  ⟨name, none⟩

def inPackage (name package : String) : JavaType :=
  ⟨name, some (package ++ "." ++ name)⟩

end JavaType

/-- What stands before the name of every overlay class. -/
def overlayName (id : String) : String :=
  "Js" ++ id

/-- IDL types with a Java type of the language itself. -/
def primitiveTypes : List (TypeName × String) :=
  [("boolean", "boolean"), ("byte", "byte"), ("octet", "int"), ("short", "int"),
   ("unsigned short", "int"), ("long", "int"), ("unsigned long", "int"), ("int", "int"),
   ("long long", "double"), ("unsigned long long", "double"), ("float", "float"),
   ("unrestricted float", "float"), ("double", "double"), ("unrestricted double", "double"),
   ("DOMTimeStamp", "double"), ("DOMString", "String"), ("String", "String"), ("any", "Object"),
   ("object", "Object"), ("Object", "Object"), ("void", "void")]

/-- The Java type of the language itself that an IDL type has. -/
def primitive? (t : TypeName) : Option String :=
  primitiveTypes.lookup t

/-- What Java types are looked up in: the graph and the layout of packages. -/
structure TypeMap where
  graph : Graph
  basePackage : String
  /-- The module of interfaces that name none. -/
  defaultModule : String

namespace TypeMap

def moduleOf (m : TypeMap) (i : Interface) : String :=
  i.module.getD m.defaultModule

def contractPackage (m : TypeMap) (module : String) : String :=
  m.basePackage ++ "." ++ module

def overlayPackage (m : TypeMap) (module : String) : String :=
  m.basePackage ++ ".js." ++ module

/-- The wrapper for containers of an element type. -/
def wrapper (element : TypeName) : String :=
  match primitive? element with
  | some "int" => "IndexableInt"
  | some "byte" => "IndexableInt"
  | some "double" => "IndexableNumber"
  | some "float" => "IndexableNumber"
  | some "String" => "IndexableString"
  | _ => "Indexable"

/-- The Java type of a container of an element type. -/
def indexable (m : TypeMap) (element : TypeName) (flavor : Flavor) : JavaType :=
  if flavor = .overlayReturn then
    .inPackage (overlayName (wrapper element)) (m.overlayPackage "util")
  else .inPackage (wrapper element) (m.contractPackage "util")

/-- The Java type of an interface that has the given unqualified name. -/
def interfaceType (m : TypeMap) (name : String) (i : Interface) (flavor : Flavor) : JavaType :=
  if flavor = .overlayReturn ∧ i.callbackOperation? = none then
    .inPackage (overlayName name) (m.overlayPackage (m.moduleOf i))
  else .inPackage name (m.contractPackage (m.moduleOf i))

/-- The Java type of an IDL type; one that is not known is an `Object`. -/
def map (m : TypeMap) (t : TypeName) (flavor : Flavor) : JavaType :=
  match primitive? t with
  | some name => .builtin name
  | none =>
    if t = "Date" then .inPackage "Date" "java.util"
    else
      match TypeName.element? t with
      | some element => m.indexable element flavor
      | none =>
        match m.graph.find? (TypeName.unqualified t) with
        | some i => m.interfaceType (TypeName.unqualified t) i flavor
        | none => .builtin "Object"

end TypeMap

end Bindery.Java

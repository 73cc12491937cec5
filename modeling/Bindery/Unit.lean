import Bindery.File.Output
import Bindery.Java.Imports
import Bindery.Java.Name
import Bindery.Member.Accessor
import Bindery.Member.Factory
import Bindery.Template.Library

/-! # Compilation units

A `CompilationUnit` is a Java type in terms of the interfaces it comes from: a header that names its
supertypes, and members.  Its text is made last, by a template from a `Frame`. -/

namespace Bindery

/-- The object on which the JavaScript side of a method is called. -/
inductive Receiver where
  /-- The overlaid object itself. -/
  | this
  /-- The constructor of a name. -/
  | global (name : String)
  deriving DecidableEq

/-- The JavaScript expression of a receiver. -/
def Receiver.text : Receiver → String
  | .this => "this"
  | .global name => "$wnd." ++ name

inductive Member where
  | constant (constant : Constant)
  | getter (a : Attribute)
  | setter (a : Attribute)
  /-- Access by index to elements of a type. -/
  | indexer (element : TypeName)
  /-- One method for each overload. -/
  | methods (set : OverloadSet) (receiver : Receiver)
  /-- The creation method of an element type. -/
  | factory (factory : FactoryMethod)
  /-- The method that creates elements of a group, as elements of the root type. -/
  | groupHelper (group : ElementGroup) (root : TypeName)
  | typedArray (factory : TypedArrayFactory)
  /-- One method for each way to call a constructor. -/
  | creation (constructors : ConstructorSet)
  /-- The conversions between event listeners and JavaScript functions, which call the given
  operation. -/
  | listenerHelpers (operation : Option Operation)
  deriving DecidableEq

inductive Header where
  /-- An interface with the ones that it extends. -/
  | contract (supertypes : List TypeName)
  /-- A class with the interface whose class it extends, if any, and the ones that it implements. -/
  | overlay (superclass : Option TypeName) (implemented : List TypeName)
  /-- An interface on its own. -/
  | callback
  deriving DecidableEq

def Header.kind : Header → UnitKind
  | .contract _ => .contract
  | .overlay _ _ => .overlay
  | .callback => .callback

/-- A Java type. -/
structure CompilationUnit where
  /-- The identifier of the interface that it comes from. -/
  subject : String
  name : String
  package : String
  header : Header
  members : List Member := []
  deriving DecidableEq

namespace CompilationUnit

def add (u : CompilationUnit) (members : List Member) : CompilationUnit :=
  { u with members := u.members ++ members }

def path (u : CompilationUnit) : Path :=
  let directory := (Path.pieces '.' u.package.toList).foldl
    (fun (p : Path) piece => p.join ⟨String.ofList piece⟩) (⟨""⟩ : Path)
  directory.join ⟨u.name ++ ".java"⟩

end CompilationUnit

/-! ### Fragments of text -/

/-- Texts, and the types they mention. -/
structure Fragment where
  texts : List String := []
  types : List Java.JavaType := []

namespace Fragment

/-- The texts and types of two fragments. -/
def append (a b : Fragment) : Fragment :=
  ⟨a.texts ++ b.texts, a.types ++ b.types⟩

/-- The texts and types of some fragments. -/
def join (fragments : List Fragment) : Fragment :=
  fragments.foldl append {}

end Fragment

/-- A list of names, each at its first occurrence only. -/
def nameList (names : List String) : String :=
  String.intercalate ", " (distinct names)

/-- A clause of a header, which is left out if it names nothing. -/
def clause (keyword : String) (names : List String) : String :=
  if names.isEmpty then "" else " " ++ keyword ++ " " ++ nameList names

/-- Parameters as a method declares them. -/
structure Parameters where
  /-- Types and names. -/
  declared : String
  /-- The names, as a call gives them. -/
  passed : String
  types : List Java.JavaType

def Parameters.ofParams (types : Java.TypeMap) (flavor : Java.Flavor) (params : List Param) :
    Parameters :=
  let typed := params.map fun p => (types.map p.type flavor, Java.identifier p.name)
  { declared := String.intercalate ", " (typed.map fun (t, name) => t.name ++ " " ++ name)
    passed := String.intercalate ", " (typed.map (·.2))
    types := typed.map (·.1) }

end Bindery

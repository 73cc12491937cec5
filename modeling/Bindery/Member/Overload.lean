import Bindery.Distinct
import Bindery.Idl.Role

/-! # Overloads

The operations of one name form an `OverloadSet`.  An operation with optional arguments contributes
one overload for each number of arguments it may be called with, and of several overloads with the
same argument types the first one counts. -/

namespace Bindery

structure Param where
  name : String
  type : TypeName
  deriving DecidableEq

/-- One way to call an operation. -/
structure Overload where
  params : List Param
  /-- Whether an ancestor declares the operation with the same signature. -/
  inherited : Bool
  deriving DecidableEq

def Overload.types (o : Overload) : List TypeName :=
  o.params.map (·.type)

/-- The operations of one name. -/
structure OverloadSet where
  /-- The emitted name. -/
  name : String
  /-- The name of the JavaScript member. -/
  jsName : String
  /-- The return type of the first declaration. -/
  returnType : TypeName
  overloads : List Overload
  isStatic : Bool
  deriving DecidableEq

/-- Whether an ancestor declares all the overloads. -/
def OverloadSet.isInherited (s : OverloadSet) : Bool :=
  s.overloads.all (·.inherited)

/-- The parameters that some arguments give. -/
def paramsOf (arguments : List Argument) : List Param :=
  arguments.map fun a => ⟨a.id, a.type⟩

/-- The parameter lists under which arguments may be given: the arguments up to the first optional
one, and every longer prefix. -/
def expandOptional (arguments : List Argument) : List (List Param) :=
  let required := (arguments.takeWhile fun a => !a.optional).length
  (List.range (arguments.length + 1 - required)).map fun n =>
    paramsOf (arguments.take (required + n))

def Operation.overloads (parentSignatures : List String) (o : Operation) : List Overload :=
  (expandOptional o.arguments).map fun params => ⟨params, parentSignatures.contains o.signature⟩

/-- The overloads of some operations, the first for each list of parameter types. -/
def overloadsOf (parentSignatures : List String) (operations : List Operation) : List Overload :=
  distinctBy Overload.types (operations.flatMap (Operation.overloads parentSignatures))

/-- The overload set of some operations; the first one gives it its names and its return type. -/
def OverloadSet.ofOperations? (parentSignatures : List String) (operations : List Operation) :
    Option OverloadSet :=
  match operations with
  | [] => none
  | first :: _ => some {
      name := first.emittedName
      jsName := first.id
      returnType := first.type
      overloads := overloadsOf parentSignatures operations
      isStatic := first.isStatic }

/-! ### Operations of an interface -/

/-- Operations that every object has. -/
def hostOperations : List String := ["toString"]

/-- Whether an operation is one that every object has. -/
def Operation.isHost (o : Operation) : Bool :=
  hostOperations.contains o.id

/-- The overload sets of declared operations, in the order in which their names first occur.  A
repeated signature and the operations that every object has are passed over. -/
def ownOverloads (operations : List Operation) (parentSignatures : List String) :
    List OverloadSet :=
  let declared := operations.filter fun o => !o.isHost
  let names := distinct (declared.map Operation.emittedName)
  names.filterMap fun name =>
    OverloadSet.ofOperations? parentSignatures
      (distinctBy Operation.signature (declared.filter fun o => o.emittedName = name))

/-- The text that identifies an overload by its name and parameter types. -/
def overloadKey (name : String) (params : List Param) : String :=
  name ++ "(" ++ String.intercalate "," (params.map (·.type)) ++ ")"

/-! ### Constructors and callbacks -/

/-- A constructor with the parameter lists it may be called with. -/
structure ConstructorSet where
  interface : String
  /-- The global JavaScript name that is called. -/
  jsName : String
  overloads : List (List Param)
  deriving DecidableEq

def Interface.constructorSet? (i : Interface) : Option ConstructorSet :=
  i.constructorArguments.map fun args => ⟨i.id, i.bindingName, expandOptional args⟩

/-- A callback with its operation. -/
structure Callback where
  interface : String
  operation : OverloadSet
  deriving DecidableEq

/-- An interface as a callback, if it is one. -/
def Interface.callback? (i : Interface) : Option Callback :=
  match i.callbackOperation? with
  | none => none
  | some o => (OverloadSet.ofOperations? [] [o]).map fun set => ⟨i.id, set⟩

end Bindery

import Bindery.Unit

/-! # The text of contracts

A contract declares methods without bodies. -/

namespace Bindery.Contract

/-- A method on a line of its own. -/
def method (returned name parameters : String) : String :=
  "  " ++ returned ++ " " ++ name ++ "(" ++ parameters ++ ");"

/-- Methods of one name, one for each list of parameters. -/
def methodsOf (types : Java.TypeMap) (returned : TypeName) (name : String)
    (overloads : List (List Param)) : Fragment :=
  let type := types.map returned .contract
  let parameters := overloads.map (Parameters.ofParams types .contract)
  { texts := parameters.map fun p => method type.name name p.declared
    types := type :: parameters.flatMap (·.types) }

def fragment (types : Java.TypeMap) : Member → Fragment
  | .constant c =>
    let type := types.map c.type .contract
    ⟨["  static final " ++ type.name ++ " " ++ c.id ++ " = " ++ c.value ++ ";"], [type]⟩
  | .getter a =>
    let type := types.map a.type .contract
    ⟨[method type.name (Java.getterName a.emittedName type.name) ""], [type]⟩
  | .setter a =>
    let type := types.map a.type .contract
    ⟨[method "void" (Java.setterName a.emittedName) (type.name ++ " arg")], [type]⟩
  | .indexer element =>
    let type := types.map element .contract
    ⟨[method type.name "at" "int index"], [type]⟩
  | .methods set _ => methodsOf types set.returnType set.name (set.overloads.map (·.params))
  | .factory f =>
    let type := types.map f.element .contract
    ⟨[method type.name f.method ""], [type]⟩
  | .typedArray f =>
    let array := types.map f.interface .contract
    let list := types.map f.listType .contract
    let buffer := types.map Graph.buffer .contract
    let parameters := ["int length", list.name ++ " list",
      buffer.name ++ " buffer, int byteOffset, int length"]
    ⟨[String.intercalate "\n\n" (parameters.map (method array.name f.method))],
      [array, list, buffer]⟩
  | .creation c => methodsOf types c.interface ("new" ++ c.interface) c.overloads
  | .groupHelper _ _ => {}
  | .listenerHelpers _ => {}

def declaration (types : Java.TypeMap) (name : String) (supertypes : List TypeName) : Fragment :=
  let mapped := supertypes.map fun t => types.map t .contract
  ⟨["public interface " ++ name ++ clause "extends" (mapped.map (·.name))], mapped⟩

end Bindery.Contract

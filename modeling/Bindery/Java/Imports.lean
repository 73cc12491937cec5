import Bindery.Java.Types

/-! # Imports of a compilation unit -/

namespace Bindery.Java

/-- The package of a qualified name: what stands before its last dot. -/
def packageOf (path : String) : String :=
  let rest := (path.toList.reverse.dropWhile (· ≠ '.')).drop 1
  String.ofList rest.reverse

/-- The imports of a unit, in ascending order. -/
structure Imports where
  /-- The package of the unit itself. -/
  package : String
  paths : NameSet := SortedMap.empty

namespace Imports

/-- Imports a qualified name, unless it is of the unit's own package or always in scope. -/
def addPath (imports : Imports) (path : String) : Imports :=
  let package := packageOf path
  if package = imports.package ∨ package = "java.lang" then imports
  else { imports with paths := imports.paths.add path }

def addType (imports : Imports) (type : JavaType) : Imports :=
  match type.imported with
  | some path => imports.addPath path
  | none => imports

/-- The imports of a unit in a package that mentions some qualified names. -/
def ofPaths (package : String) (paths : List String) : Imports :=
  paths.foldl addPath { package }

end Imports

end Bindery.Java

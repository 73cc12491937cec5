import Bindery.Unit.Contract
import Bindery.Unit.Overlay

/-! # Rendering units -/

namespace Bindery.CompilationUnit

def declaration (u : CompilationUnit) (types : Java.TypeMap) : Fragment :=
  match u.header with
  | .contract supertypes => Contract.declaration types u.name supertypes
  | .overlay superclass implemented => Overlay.declaration types u.name superclass implemented
  | .callback => Contract.declaration types u.name []

/-- The text of a member of a unit.  `base` is the qualified name of the mixin base. -/
def memberFragment (u : CompilationUnit) (types : Java.TypeMap) (base : String) (m : Member) :
    Fragment :=
  match u.header with
  | .overlay _ _ => Overlay.fragment types base m
  | _ => Contract.fragment types m

/-- What the template of a unit is given: members are set apart by blank lines, and the imports are
those of all types mentioned. -/
def frame (u : CompilationUnit) (types : Java.TypeMap) (base : String) : Frame :=
  let head := u.declaration types
  let body := Fragment.join (u.members.map (u.memberFragment types base))
  let mentioned := (head.types ++ body.types).filterMap (·.imported)
  { package := u.package
    imports := (Java.Imports.ofPaths u.package mentioned).paths.keys
    name := u.name
    declaration := String.join head.texts
    body := String.intercalate "\n" (body.texts.map ("\n" ++ ·)) }

/-- The rendered unit on its way to its path. -/
def render (u : CompilationUnit) (templates : Templates) (types : Java.TypeMap) (base : String) :
    Except Error Emission :=
  match templates.render u.header.kind.templateName (u.frame types base).document with
  | .ok text => .ok ⟨u.path, text⟩
  | .error e => .error e

end Bindery.CompilationUnit

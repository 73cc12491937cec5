import Bindery.Config
import Bindery.File.Tree
import Bindery.Template.Parse
import Bindery.Template.Render

/-! # The templates of compilation units

A unit is rendered from a `Frame`: its package, imports, name, declaration and body.  Each kind of
unit has a built-in template, which a file of its name in the template directory replaces. -/

namespace Bindery

/-- What a compilation unit is made of. -/
structure Frame where
  package : String := ""
  imports : List String := []
  /-- The name of the type. -/
  name : String := ""
  /-- The header of the type, up to its opening brace. -/
  declaration : String := ""
  /-- The members, without a line end behind the last one. -/
  body : String := ""
  deriving DecidableEq

/-- The data that a frame gives to a template. -/
def Frame.document (f : Frame) : Document :=
  .record [("body", .text f.body), ("declaration", .text f.declaration),
    ("imports", .ofTexts f.imports), ("name", .text f.name), ("package", .text f.package)]

/-- The kinds of units. -/
inductive UnitKind where
  | contract
  | overlay
  | callback
  deriving DecidableEq

namespace UnitKind

def templateName : UnitKind → String
  | .contract => "interface.java.hbs"
  | .overlay => "jso.java.hbs"
  | .callback => "callback.java.hbs"

def all : List UnitKind :=
  [.contract, .overlay, .callback]

/-- What stands before the body of a unit, inside its braces. -/
def opening : UnitKind → List Template
  | .overlay => [.text "  protected ", .field "name", .text "() \x7b\x7d\n"]
  | _ => []

def builtin (kind : UnitKind) : List Template :=
  [.text "package ", .field "package", .text ";\n\n",
   .forEach "imports" [.text "import ", .this, .text ";\n"],
   .text "\n", .field "declaration", .text " \x7b\n"] ++ kind.opening ++
    [.field "body", .text "\n\x7d\n"]

end UnitKind

structure Templates where
  table : SortedMap String (List Template)

namespace Templates

def builtin : Templates :=
  ⟨SortedMap.ofList (UnitKind.all.map fun kind => (kind.templateName, kind.builtin))⟩

/-- The file that replaces a built-in template: the first one found in the search paths. -/
def replacement? (tree : FileTree) (dir : Option Path) (search : List String) (name : String) :
    Option String :=
  match dir with
  | none => none
  | some dir => search.findSome? fun sub => tree.read? ((dir.join ⟨sub⟩).join ⟨name⟩)

/-- The template of a kind, read from its file if there is one. -/
def ofKind (tree : FileTree) (dir : Option Path) (search : List String) (kind : UnitKind) :
    Except Error (String × List Template) :=
  match replacement? tree dir search kind.templateName with
  | none => .ok (kind.templateName, kind.builtin)
  | some source =>
    match Template.parse? source with
    | some ts => .ok (kind.templateName, ts)
    | none => .error (.template kind.templateName)

/-- The templates found for some search paths below a directory. -/
def load (tree : FileTree) (dir : Option Path) (search : List String) : Except Error Templates :=
  match UnitKind.all.mapM (ofKind tree dir search) with
  | .ok entries => .ok ⟨SortedMap.ofList entries⟩
  | .error e => .error e

/-- The text of the template of a name for some data. -/
def render (ts : Templates) (name : String) (data : Document) : Except Error String :=
  match (ts.table.find? name).bind fun t => Template.renderAll? (.ofData data) t with
  | some text => .ok text
  | none => .error (.render name)

end Templates

end Bindery

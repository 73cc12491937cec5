import Bindery.Document.Yaml
import Bindery.Error
import Bindery.File.Tree
import Bindery.Idl.Database

/-! # Loading databases -/

namespace Bindery.Database

def ofYaml? (text : String) : Option Graph :=
  match Yaml.parse? text with
  | none => none
  | some d => (read .yaml d).toOption

def isYaml (p : Path) : Bool :=
  p.extension? = some "yaml" || p.extension? = some "yml"

/-- The graph of a database text, which is read by the extension of its path. -/
def ofText (p : Path) (text : String) : Except Error Graph :=
  if isYaml p then
    match ofYaml? text with
    | some g => .ok g
    | none => .error .yaml
  else
    match ofJson? text with
    | some g => .ok g
    | none => .error .json

def load (tree : FileTree) (p : Path) : Except Error Graph :=
  match tree.read? p with
  | none => .error (.file p.text)
  | some text => ofText p text

end Bindery.Database

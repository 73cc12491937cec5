import Bindery.File.Path
import Bindery.Idl.Filter
import Bindery.Idl.Mixin
import Bindery.Idl.Rename
import Bindery.Member.Factory

/-! # Configuration

A `Config` says how interfaces are laid out in packages, which of them play a special part, and
which targets are generated.  Everything has a default, so an empty configuration describes one
target with both backends that keeps all interfaces. -/

namespace Bindery

/-- What is generated from an interface. -/
inductive Backend where
  /-- A Java interface. -/
  | contract
  /-- A class that overlays a JavaScript object. -/
  | overlay
  deriving DecidableEq

namespace Backend

def name : Backend → String
  | .contract => "interfaces"
  | .overlay => "jso"

/-- The name of a backend in messages. -/
def label : Backend → String
  | .contract => "Interfaces"
  | .overlay => "Jso"

/-- The backend with a name in configurations. -/
def ofName? (name : String) : Option Backend :=
  if name = "interfaces" then some .contract
  else if name = "jso" then some .overlay
  else none

/-- The backend that is asked for by its name, or by the older name of its kind. -/
def parse (name : String) : Except Error Backend :=
  if name = "interfaces" ∨ name = "gwt" then .ok .contract
  else if name = "jso" ∨ name = "gwtjso" then .ok .overlay
  else .error (.unknownBackend name)

/-- Where templates are looked for below the template directory, most specific first. -/
def searchPaths : Backend → List String
  | .contract => ["dom/interface", "dom", ""]
  | .overlay => ["dom/jso", "dom", ""]

end Backend

/-- One tree of generated files. -/
structure Target where
  name : String := "default"
  outputDir : Path := ⟨"generated"⟩
  systems : List Backend := [.contract, .overlay]
  /-- Without a filter, only members of unidentified type are dropped. -/
  filter : Option AnnotationFilter := none
  /-- What is renamed after filtering, in order. -/
  renames : List RenamePass := []
  deriving DecidableEq

structure Config where
  /-- The package above all generated packages. -/
  basePackage : String := "elemental"
  /-- The module of interfaces that name none. -/
  defaultModule : String := "dom"
  /-- The top of all overlay classes. -/
  mixinBase : String := "ElementalMixinBase"
  /-- Interfaces that are always mixins. -/
  manualMixins : List String := defaultManualMixins
  /-- The parent of all event sources. -/
  eventTarget : String := "EventTarget"
  /-- The annotations one of which an interface needs to be generated; none are needed if there are
  none. -/
  sourceFilter : List String := []
  /-- The interface that gets the creation methods of elements. -/
  factoryRoot : String := "Document"
  factoryNaming : FactoryNaming := {}
  /-- The interface that gets the factories of typed arrays and constructors. -/
  globalRoot : String := "Window"
  /-- Sources written by hand; an interface whose name is the stem of one is passed over. -/
  auxiliaryDir : Option Path := none
  templateDir : Option Path := none
  targets : List Target := [{}]
  deriving DecidableEq

namespace Config

/-- The target of a name, or the first one if no name is given. -/
def target (c : Config) (name : Option String) : Except Error Target :=
  match name with
  | some name =>
    match c.targets.find? (·.name = name) with
    | some t => .ok t
    | none => .error (.noTarget name)
  | none =>
    match c.targets with
    | t :: _ => .ok t
    | [] => .error .noTargets

/-- Whether something with these annotations passes the source filter. -/
def matchesSource (c : Config) (annotations : Annotations) : Bool :=
  c.sourceFilter.isEmpty || c.sourceFilter.any annotations.contains

end Config

end Bindery

import Bindery.Config
import Bindery.Document.Shape
import Bindery.Document.Toml

/-! # Reading configurations -/

namespace Bindery.Config

def readTexts : Reader (List String) :=
  Reader.list Reader.text

def readPath : Reader Path := fun d =>
  (Reader.text d).map Path.mk

/-- Reads a map from texts to texts. -/
def readTable : Reader (SortedMap String String) :=
  Reader.map Reader.text

def readBackendName (name : String) : Except ShapeError Backend :=
  match Backend.ofName? name with
  | some b => .ok b
  | none => .error (.refused "backend")

/-- Whether a document stands for no value at all behind a name: an empty list or table in TOML,
which has no null, and null elsewhere. -/
def isNothing (format : Format) (d : Document) : Bool :=
  if format = .toml then d = .list [] || d = .record [] else d = .null

/-- Reads a backend: its name, or a record with its name as the only field and no value. -/
def readBackend (format : Format) : Reader Backend
  | .text name => readBackendName name
  | .record [(name, d)] =>
    if isNothing format d then readBackendName name else .error (.expected "backend")
  | _ => .error (.expected "backend")

def readFilter (format : Format) : Reader AnnotationFilter := fun d => do
  let fields ← Fields.read format ["require_all", "require_any", "exclude_displaced",
    "exclude_suppressed"] d
  let requireAll ← fields.optional "require_all" readTexts []
  let requireAny ← fields.optional "require_any" readTexts []
  let excludeDisplaced ← fields.optional "exclude_displaced" readTexts []
  let excludeSuppressed ← fields.optional "exclude_suppressed" readTexts []
  return { requireAll, requireAny, excludeDisplaced, excludeSuppressed }

def readPass (format : Format) : Reader RenamePass := fun d => do
  let fields ← Fields.read format ["rename_binding_names", "table"] d
  let bindingNames ← fields.optional "rename_binding_names" Reader.bool false
  let table ← fields.optional "table" readTable SortedMap.empty
  return { bindingNames, table }

def readGroup (format : Format) : Reader ElementGroup := fun d => do
  let fields ← Fields.read format ["prefix", "root", "root_name", "namespace", "helper"] d
  let start ← fields.required "prefix" Reader.text
  let root ← fields.required "root" Reader.text
  let rootName ← fields.required "root_name" Reader.text
  let namespaceUri ← fields.required "namespace" Reader.text
  let helper ← fields.required "helper" Reader.text
  return { start, root, rootName, namespaceUri, helper }

def readNaming (format : Format) : Reader FactoryNaming := fun d => do
  let absent : FactoryNaming := {}
  let fields ← Fields.read format ["suffix", "excluded", "tag_remap", "prefix_groups"] d
  let suffix ← fields.optional "suffix" Reader.text absent.suffix
  let excluded ← fields.optional "excluded" readTexts absent.excluded
  let tags ← fields.optional "tag_remap" readTable absent.tags
  let groups ← fields.optional "prefix_groups" (Reader.list (readGroup format)) absent.groups
  return { suffix, excluded, tags, groups }

def readTarget (format : Format) : Reader Target := fun d => do
  let absent : Target := {}
  let fields ← Fields.read format ["name", "output_dir", "systems", "filter", "renames"] d
  let name ← fields.optional "name" Reader.text absent.name
  let outputDir ← fields.optional "output_dir" readPath absent.outputDir
  let systems ← fields.optional "systems" (Reader.list (readBackend format)) absent.systems
  let filter ← fields.optional "filter" (Reader.nullable (readFilter format)) absent.filter
  let renames ← fields.optional "renames" (Reader.list (readPass format)) absent.renames
  return { name, outputDir, systems, filter, renames }

def read (format : Format) : Reader Config := fun d => do
  let absent : Config := {}
  let fields ← Fields.read format ["base_package", "default_module", "mixin_base", "manual_mixins",
    "event_target", "source_filter", "factory_root", "factory_naming", "global_root",
    "auxiliary_dir", "template_dir", "targets"] d
  let basePackage ← fields.optional "base_package" Reader.text absent.basePackage
  let defaultModule ← fields.optional "default_module" Reader.text absent.defaultModule
  let mixinBase ← fields.optional "mixin_base" Reader.text absent.mixinBase
  let manualMixins ← fields.optional "manual_mixins" readTexts absent.manualMixins
  let eventTarget ← fields.optional "event_target" Reader.text absent.eventTarget
  let sourceFilter ← fields.optional "source_filter" readTexts absent.sourceFilter
  let factoryRoot ← fields.optional "factory_root" Reader.text absent.factoryRoot
  let factoryNaming ← fields.optional "factory_naming" (readNaming format) absent.factoryNaming
  let globalRoot ← fields.optional "global_root" Reader.text absent.globalRoot
  let auxiliaryDir ← fields.optional "auxiliary_dir" (Reader.nullable readPath) none
  let templateDir ← fields.optional "template_dir" (Reader.nullable readPath) none
  let targets ← fields.optional "targets" (Reader.list (readTarget format)) absent.targets
  return {
    basePackage, defaultModule, mixinBase, manualMixins, eventTarget, sourceFilter,
    factoryRoot, factoryNaming, globalRoot, auxiliaryDir, templateDir, targets }

def ofToml (source : String) : Except Error Config :=
  match Toml.parse? source with
  | none => .error .config
  | some d =>
    match read .toml d with
    | .ok c => .ok c
    | .error _ => .error .config

end Bindery.Config

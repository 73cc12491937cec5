import Bindery.Document.Json
import Bindery.Document.Shape
import Bindery.Idl.Graph

/-! # The interface database

A database is a list of interfaces.  `Database.read` takes it from a document and `Database.write`
gives it back with every field present, in order of identifiers, so that reading what was written
returns the same graph. -/

namespace Bindery.Database

/-! ### Reading -/

def readAnnotation : Reader Annotation :=
  Reader.map Reader.value

def readAnnotations : Reader Annotations :=
  Reader.map readAnnotation

def readExtensions : Reader Extensions :=
  Reader.map (Reader.nullable Reader.text)

def readParent (format : Format) : Reader Parent := fun d => do
  let fields ← Fields.read format ["type", "annotations"] d
  let type ← fields.required "type" Reader.text
  let annotations ← fields.optional "annotations" readAnnotations SortedMap.empty
  return { type, annotations }

def readArgument (format : Format) : Reader Argument := fun d => do
  let fields ← Fields.read format ["id", "type", "optional"] d
  let id ← fields.required "id" Reader.text
  let type ← fields.required "type" Reader.text
  let optional ← fields.optional "optional" Reader.bool false
  return { id, type, optional }

def readAttribute (format : Format) : Reader Attribute := fun d => do
  let fields ← Fields.read format ["id", "type", "is_getter", "is_setter", "replaceable",
    "get_raises", "set_raises", "annotations", "ext_attrs"] d
  let id ← fields.required "id" Reader.text
  let type ← fields.required "type" Reader.text
  let isGetter ← fields.optional "is_getter" Reader.bool true
  let isSetter ← fields.optional "is_setter" Reader.bool false
  let replaceable ← fields.optional "replaceable" Reader.bool false
  let getRaises ← fields.optional "get_raises" (Reader.nullable Reader.text) none
  let setRaises ← fields.optional "set_raises" (Reader.nullable Reader.text) none
  let annotations ← fields.optional "annotations" readAnnotations SortedMap.empty
  let extensions ← fields.optional "ext_attrs" readExtensions SortedMap.empty
  return { id, type, isGetter, isSetter, replaceable, getRaises, setRaises, annotations,
           extensions }

def readOperation (format : Format) : Reader Operation := fun d => do
  let fields ← Fields.read format ["id", "type", "arguments", "is_static", "raises", "annotations",
    "ext_attrs"] d
  let id ← fields.required "id" Reader.text
  let type ← fields.required "type" Reader.text
  let arguments ← fields.optional "arguments" (Reader.list (readArgument format)) []
  let isStatic ← fields.optional "is_static" Reader.bool false
  let raises ← fields.optional "raises" (Reader.nullable Reader.text) none
  let annotations ← fields.optional "annotations" readAnnotations SortedMap.empty
  let extensions ← fields.optional "ext_attrs" readExtensions SortedMap.empty
  return { id, type, arguments, isStatic, raises, annotations, extensions }

def readConstant (format : Format) : Reader Constant := fun d => do
  let fields ← Fields.read format ["id", "type", "value", "annotations"] d
  let id ← fields.required "id" Reader.text
  let type ← fields.required "type" Reader.text
  let value ← fields.required "value" Reader.text
  let annotations ← fields.optional "annotations" readAnnotations SortedMap.empty
  return { id, type, value, annotations }

def readInterface (format : Format) : Reader Interface := fun d => do
  let fields ← Fields.read format ["id", "parents", "attributes", "operations", "constants",
    "annotations", "ext_attrs", "module", "js_name", "constructor"] d
  let id ← fields.required "id" Reader.text
  let parents ← fields.optional "parents" (Reader.list (readParent format)) []
  let attributes ← fields.optional "attributes" (Reader.list (readAttribute format)) []
  let operations ← fields.optional "operations" (Reader.list (readOperation format)) []
  let constants ← fields.optional "constants" (Reader.list (readConstant format)) []
  let annotations ← fields.optional "annotations" readAnnotations SortedMap.empty
  let extensions ← fields.optional "ext_attrs" readExtensions SortedMap.empty
  let module ← fields.optional "module" (Reader.nullable Reader.text) none
  let jsName ← fields.optional "js_name" (Reader.nullable Reader.text) none
  let constructorArguments ← fields.optional "constructor"
    (Reader.nullable (Reader.list (readArgument format))) none
  return { id, parents, attributes, operations, constants, annotations, extensions, module, jsName,
           constructorArguments }

def readInterfaces (format : Format) : Reader (List Interface) :=
  Reader.list (readInterface format)

/-- Reads a database into a graph; two interfaces of one identifier are refused. -/
def read (format : Format) : Reader Graph := fun d =>
  match readInterfaces format d with
  | .error e => .error e
  | .ok is =>
    match Graph.ofInterfaces is with
    | .ok g => .ok g
    | .error _ => .error (.refused "duplicate interface")

/-! ### Writing -/

def ofAnnotations (annotations : Annotations) : Document :=
  .record (annotations.entries.map fun (name, a) => (name, (Value.record a).document))

def ofExtensions (extensions : Extensions) : Document :=
  .record (extensions.entries.map fun (name, v) => (name, Document.ofText? v))

def ofParent (p : Parent) : Document :=
  .record [("type", .text p.type), ("annotations", ofAnnotations p.annotations)]

def ofArgument (a : Argument) : Document :=
  .record [("id", .text a.id), ("type", .text a.type), ("optional", .bool a.optional)]

def ofAttribute (a : Attribute) : Document :=
  .record [("id", .text a.id), ("type", .text a.type), ("is_getter", .bool a.isGetter),
    ("is_setter", .bool a.isSetter), ("replaceable", .bool a.replaceable),
    ("get_raises", Document.ofText? a.getRaises), ("set_raises", Document.ofText? a.setRaises),
    ("annotations", ofAnnotations a.annotations), ("ext_attrs", ofExtensions a.extensions)]

def ofOperation (o : Operation) : Document :=
  .record [("id", .text o.id), ("type", .text o.type),
    ("arguments", .list (o.arguments.map ofArgument)), ("is_static", .bool o.isStatic),
    ("raises", Document.ofText? o.raises), ("annotations", ofAnnotations o.annotations),
    ("ext_attrs", ofExtensions o.extensions)]

def ofConstant (c : Constant) : Document :=
  .record [("id", .text c.id), ("type", .text c.type), ("value", .text c.value),
    ("annotations", ofAnnotations c.annotations)]

def ofInterface (i : Interface) : Document :=
  .record [("id", .text i.id), ("parents", .list (i.parents.map ofParent)),
    ("attributes", .list (i.attributes.map ofAttribute)),
    ("operations", .list (i.operations.map ofOperation)),
    ("constants", .list (i.constants.map ofConstant)),
    ("annotations", ofAnnotations i.annotations), ("ext_attrs", ofExtensions i.extensions),
    ("module", Document.ofText? i.module), ("js_name", Document.ofText? i.jsName),
    ("constructor", match i.constructorArguments with
      | none => .null
      | some args => .list (args.map ofArgument))]

/-- Writes a graph as the list of its interfaces in order of identifiers. -/
def write (g : Graph) : Document :=
  .list (g.interfaces.map ofInterface)

def ofJson? (text : String) : Option Graph :=
  match Json.parse? text with
  | none => none
  | some d => (read .json d).toOption

def toJson (g : Graph) : String :=
  Json.pretty (write g)

end Bindery.Database

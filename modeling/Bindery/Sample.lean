import Bindery.Document.Json
import Bindery.Idl.Build
import Bindery.Idl.Graph

/-! # Sample graphs and files -/

namespace Bindery.Sample

/-- The graph of some interfaces with distinct identifiers. -/
def graphOf (interfaces : List Interface) : Graph :=
  interfaces.foldl Graph.add Graph.empty

def derived (id : String) (parents : List TypeName) : Interface :=
  { id, parents := parents.map fun type => { type } }

/-- A mandatory argument. -/
def argument (id : String) (type : TypeName) : Argument :=
  { id, type }

/-- An operation with mandatory arguments. -/
def operation (id : String) (type : TypeName) (arguments : List Argument) : Operation :=
  { id, type, arguments }

/-- A readable and writable attribute, declared as a getter and a setter. -/
def accessors (id : String) (type : TypeName) : List Attribute :=
  [.getter id type, .setter id type]

/-- Five interfaces: `Document` is the factory root, and `ButtonElement` its only element type. -/
def endToEnd : Graph :=
  graphOf [
    derived "Node" [],
    derived "Element" ["Node"],
    derived "ButtonElement" ["Element"],
    derived "Document" ["Node"],
    derived "Window" ["EventTargetCapable"]]

/-- `Shared` is a secondary parent of two interfaces without a common line. -/
def diamond : Graph :=
  graphOf [
    derived "Base" [],
    derived "OtherBase" [],
    { derived "Shared" [] with
      attributes := [.getter "shared" "DOMString"]
      operations := [operation "share" "void" [argument "depth" "long"]] },
    derived "Foo" ["Base"],
    derived "Bar" ["Base", "Shared"],
    derived "Baz" ["OtherBase", "Shared"]]

def events : List Interface :=
  [({ derived "EventTarget" [] with
      operations := [operation "addEventListener" "void"
        [argument "type" "DOMString", argument "listener" "EventListener",
         { id := "useCapture", type := "boolean", optional := true }]] }).inModule "events",
   ({ derived "Event" [] with attributes := [.getter "type" "DOMString"] }).inModule "events",
   (({ derived "EventListener" [] with
      operations := [operation "handleEvent" "void" [argument "evt" "Event"]] }).inModule
      "events").withExtension "Callback" none]

def nodes : List Interface :=
  [({ derived "Node" [] with
      constants := [{ id := "TEXT_NODE", type := "unsigned short", value := "3" },
        { id := "ELEMENT_NODE", type := "unsigned short", value := "1" }]
      attributes := .getter "nodeName" "DOMString" :: accessors "textContent" "DOMString"
      operations := [operation "appendChild" "Node" [argument "newChild" "Node"],
        operation "toString" "DOMString" []] }).withExtension "EventTarget" none,
   { derived "ElementTraversal" [] with attributes := [.getter "firstElementChild" "Element"] },
   { derived "Element" ["Node", "ElementTraversal"] with
      attributes := accessors "onclick" "EventListener" ++ accessors "id" "DOMString" },
   { derived "ButtonElement" ["Element"] with attributes := accessors "disabled" "boolean" },
   { derived "NodeList" ["sequence<Node>"] with
      attributes := [.getter "length" "unsigned long"] },
   { derived "Document" ["Node"] with
      operations := [operation "createElement" "Element" [argument "tagName" "DOMString"],
        operation "createElementNS" "Element"
          [argument "namespaceURI" "DOMString", argument "qualifiedName" "DOMString"]] }]

def browser : List Interface :=
  [(({ derived "XMLHttpRequest" [] with
      operations := [operation "open" "void"
        [argument "method" "DOMString", argument "url" "DOMString"]] }).withExtension
      "EventTarget" none).withConstructor [],
   { derived "Window" ["EventTarget"] with
      attributes := [.getter "document" "Document", .getter "location" "DOMString",
        (Attribute.setter "location" "DOMString").asReplaceable] },
   { derived "URL" [] with
      operations := [
        (operation "createObjectURL" "DOMString" [argument "blob" "Blob"]).asStatic,
        (operation "revokeObjectURL" "void" [argument "url" "DOMString"]).asStatic] },
   { derived "Blob" [] with attributes := [.getter "size" "unsigned long long"] }]

/-- A small part of a document object model. -/
def dom : Graph :=
  graphOf (events ++ nodes ++ browser)

/-- The typed arrays and their buffer. -/
def arrays : List Interface :=
  [{ derived "ArrayBuffer" [] with attributes := [.getter "byteLength" "unsigned long"] },
   derived "ArrayBufferView" [],
   (derived "Float32Array" ["ArrayBufferView", "sequence<double>"]).withConstructor
     [argument "length" "unsigned long"],
   derived "Uint8Array" ["ArrayBufferView", "sequence<long>"]]

/-- The document object model with typed arrays. -/
def typedArrays : Graph :=
  graphOf (events ++ nodes ++ browser ++ arrays)

/-! ### Files -/

def parentDocument (type : TypeName) : Document :=
  .record [("type", .text type)]

/-- An identifier and a type. -/
def typedDocument (id : String) (type : TypeName) : Document :=
  .record [("id", .text id), ("type", .text type)]

/-- The database and the configuration of a target with both backends. -/
def minimalDom (base : String) : List (String × String) :=
  let database := .list [
    .record [("attributes", .list [typedDocument "nodeName" "DOMString"]), ("id", .text "Node")],
    .record [("id", .text "Element"), ("parents", .list [parentDocument "Node"])],
    .record [("id", .text "ButtonElement"), ("parents", .list [parentDocument "Element"])],
    .record [("id", .text "Document"),
      ("operations", .list [.record [
        ("arguments", .list [typedDocument "tagName" "DOMString"]),
        ("id", .text "createElement"), ("type", .text "Element")]]),
      ("parents", .list [parentDocument "Node"])]]
  let config := "\n[[targets]]\nname = \"dom\"\noutput_dir = \"" ++ base ++
    "/out\"\nsystems = [\"interfaces\", \"jso\"]\n"
  [("database.json", Json.pretty database), ("interlace.toml", config)]

/-- Annotations without properties. -/
def platforms (names : List String) : Document :=
  .record (names.map fun name => (name, .record []))

/-- The database and the configuration of two targets that share it. -/
def multiPlatform (base : String) : List (String × String) :=
  let both := platforms ["Gecko", "WebKit"]
  let overset := .record [("annotations", platforms ["WebKit"]),
    ("id", .text "webkitRegionOverset"), ("type", .text "DOMString")]
  let fullScreen := .record [("annotations", platforms ["Gecko"]),
    ("id", .text "mozRequestFullScreen"), ("type", .text "DOMString")]
  let database := .list [
    .record [("annotations", both), ("id", .text "Node")],
    .record [("annotations", both), ("attributes", .list [overset, fullScreen]),
      ("id", .text "Element"),
      ("parents", .list [.record [("annotations", both), ("type", .text "Node")]])],
    .record [("annotations", platforms ["WebKit"]), ("id", .text "WebKitPoint")],
    .record [("annotations", both), ("id", .text "DOMWindow")]]
  let config := "\n[[targets]]\nname = \"webkit\"\noutput_dir = \"" ++ base ++
    "/webkit\"\nsystems = [\"interfaces\"]\n\n[targets.filter]\nrequire_any = [\"WebKit\"]\n\n" ++
    "[[targets.renames]]\ntable = \x7b DOMWindow = \"Window\" \x7d\n\n" ++
    "[[targets]]\nname = \"gecko\"\noutput_dir = \"" ++ base ++
    "/gecko\"\nsystems = [\"interfaces\"]\n\n[targets.filter]\nrequire_any = [\"Gecko\"]\n"
  [("database.json", Json.pretty database), ("interlace.toml", config)]

end Bindery.Sample

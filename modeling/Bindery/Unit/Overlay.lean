import Bindery.Unit

/-! # The text of overlay classes

An overlay class implements its methods in JavaScript, which stands in comments.  Methods are
`final`.  Event listeners are converted by two methods of the mixin base. -/

namespace Bindery.Overlay

/-- The class above all overlay classes. -/
def javaScriptObject : Java.JavaType :=
  .inPackage "JavaScriptObject" "com.google.gwt.core.client"

/-- The interface of event listeners. -/
def eventListener : String := "EventListener"

/-- Whether a type is that of event listeners. -/
def isListener (t : TypeName) : Bool :=
  TypeName.unqualified t = eventListener

/-- A qualified name with slashes instead of dots. -/
def slashed (path : String) : String :=
  String.ofList (path.toList.map fun c => if c = '.' then '/' else c)

/-- The descriptor of a type in a reference to a Java method. -/
def descriptor (type : Java.JavaType) : String :=
  match type.name with
  | "int" => "I"
  | "double" => "D"
  | "float" => "F"
  | "boolean" => "Z"
  | "byte" => "B"
  | "void" => "V"
  | "String" => "Ljava/lang/String;"
  | _ =>
    match type.imported with
    | some path => "L" ++ slashed path ++ ";"
    | none => "Ljava/lang/Object;"

/-- The descriptor of the class above all overlay classes. -/
def objectDescriptor : String :=
  descriptor javaScriptObject

/-! ### Methods -/

/-- A method with a body in JavaScript, one statement on a line. -/
def native (header : String) (statements : List String) : String :=
  "  " ++ header ++ " /*-\x7b\n" ++ String.join (statements.map fun s => "    " ++ s ++ "\n") ++
    "  \x7d-*/;"

/-- A method with a body in JavaScript on the line of its header. -/
def nativeLine (header statement : String) : String :=
  "  " ++ header ++ " /*-\x7b " ++ statement ++ " \x7d-*/;"

/-- A method with a body in Java of one statement. -/
def plain (header statement : String) : String :=
  "  " ++ header ++ " \x7b\n    " ++ statement ++ "\n  \x7d"

/-- The text of a getter.  `base` is the qualified name of the mixin base. -/
def getter (types : Java.TypeMap) (base : String) (a : Attribute) : Fragment :=
  let type := types.map a.type .overlayReturn
  let header := "public final native " ++ type.name ++ " " ++
    Java.getterName a.emittedName type.name ++ "()"
  let statement :=
    if isListener a.type then
      "return @" ++ base ++ "::getListenerFor(" ++ objectDescriptor ++ ")(this." ++ a.id ++ ");"
    else "return this." ++ a.id ++ ";"
  ⟨[native header [statement]], [type]⟩

/-- The text of a setter.  `base` is the qualified name of the mixin base. -/
def setter (types : Java.TypeMap) (base : String) (a : Attribute) : Fragment :=
  let type := types.map a.type .overlayParameter
  let header (parameter : String) := "public final native void " ++
    Java.setterName a.emittedName ++ "(" ++ type.name ++ " " ++ parameter ++ ")"
  if isListener a.type then
    ⟨[native (header "listener")
      ["this." ++ a.id ++ " = @" ++ base ++ "::getHandlerFor(" ++ descriptor type ++
        ")(listener);"]], [type]⟩
  else
    ⟨[native (header ("param_" ++ a.id)) ["this." ++ a.id ++ " = param_" ++ a.id ++ ";"]], [type]⟩

def overload (set : OverloadSet) (receiver : Receiver) (returned : Java.JavaType) (p : Parameters) :
    String :=
  let modifiers := if set.isStatic then "public static native" else "public final native"
  let call := receiver.text ++ "." ++ set.jsName ++ "(" ++ p.passed ++ ");"
  native (modifiers ++ " " ++ returned.name ++ " " ++ set.name ++ "(" ++ p.declared ++ ")")
    [if returned.name = "void" then call else "return " ++ call]

def methods (types : Java.TypeMap) (set : OverloadSet) (receiver : Receiver) : Fragment :=
  let returned := types.map set.returnType .overlayReturn
  let parameters := set.overloads.map fun o =>
    Parameters.ofParams types .overlayParameter o.params
  { texts := parameters.map (overload set receiver returned)
    types := returned :: parameters.flatMap (·.types) }

/-! ### Factories -/

/-- The text of the factories of a typed array. -/
def typedArray (types : Java.TypeMap) (f : TypedArrayFactory) : Fragment :=
  let array := types.map f.interface .overlayReturn
  let list := types.map f.listType .overlayParameter
  let buffer := types.map Graph.buffer .overlayParameter
  let line (parameters arguments : String) :=
    nativeLine ("public final native " ++ array.name ++ " " ++ f.method ++ "(" ++ parameters ++ ")")
      ("return new " ++ f.jsName ++ "(" ++ arguments ++ ");")
  ⟨[String.intercalate "\n\n"
    [line "int length" "length", line (list.name ++ " list") "list",
     line (buffer.name ++ " buffer, int byteOffset, int length") "buffer, byteOffset, length"]],
   [array, list, buffer]⟩

/-- The texts of the factories that call a constructor. -/
def creation (types : Java.TypeMap) (c : ConstructorSet) : Fragment :=
  let created := types.map c.interface .overlayReturn
  let parameters := c.overloads.map (Parameters.ofParams types .overlayParameter)
  { texts := parameters.map fun p =>
      nativeLine ("public final native " ++ created.name ++ " new" ++ c.interface ++ "(" ++
        p.declared ++ ")") ("return new " ++ c.jsName ++ "(" ++ p.passed ++ ");")
    types := created :: parameters.flatMap (·.types) }

/-- The text of the creation method of an element type. -/
def factory (types : Java.TypeMap) (f : FactoryMethod) : Fragment :=
  let element := types.map f.element .overlayReturn
  let creator := match f.group with
    | some g => g.helper
    | none => "createElement"
  ⟨[plain ("public final " ++ element.name ++ " " ++ f.method ++ "()")
    ("return " ++ creator ++ "(\"" ++ f.tag ++ "\").cast();")], [element]⟩

/-- The text of the method that creates elements of a group. -/
def groupHelper (types : Java.TypeMap) (g : ElementGroup) (root : TypeName) : Fragment :=
  let element := types.map root .overlayReturn
  ⟨[plain ("public final " ++ element.name ++ " " ++ g.helper ++ "(String tag)")
    ("return createElementNS(\"" ++ g.namespaceUri ++ "\", tag).cast();")], [element]⟩

/-! ### Event listeners -/

/-- The statement that makes a JavaScript function of a listener. -/
def handlerStatement (types : Java.TypeMap) (listener : Java.JavaType) :
    Option Operation → String
  | some o =>
    let descriptors := o.arguments.map fun a => descriptor (types.map a.type .contract)
    "var handler = function(evt) \x7b listener.@" ++ listener.imported.getD "" ++ "::" ++ o.id ++
      "(" ++ String.join descriptors ++ ")(evt); \x7d;"
  | none => "var handler = function(evt) \x7b\x7d;"

/-- The texts of the conversions between event listeners and JavaScript functions. -/
def listenerHelpers (types : Java.TypeMap) (operation : Option Operation) : Fragment :=
  let listener := types.map eventListener .contract
  ⟨[native ("public static native " ++ listener.name ++
      " getListenerFor(JavaScriptObject handler)")
      ["return handler ? handler.listener || null : null;"],
    native ("public static native JavaScriptObject getHandlerFor(" ++ listener.name ++ " listener)")
      ["if (!listener) \x7b return null; \x7d", handlerStatement types listener operation,
       "handler.listener = listener;", "return handler;"]],
   [listener, javaScriptObject]⟩

/-! ### Classes -/

/-- The text of a member; constants belong to the contract. -/
def fragment (types : Java.TypeMap) (base : String) : Member → Fragment
  | .constant _ => {}
  | .getter a => getter types base a
  | .setter a => setter types base a
  | .indexer element =>
    let type := types.map element .overlayReturn
    ⟨[native ("public final native " ++ type.name ++ " at(int index)") ["return this[index];"]],
      [type]⟩
  | .methods set receiver => methods types set receiver
  | .factory f => factory types f
  | .groupHelper g root => groupHelper types g root
  | .typedArray f => typedArray types f
  | .creation c => creation types c
  | .listenerHelpers operation => listenerHelpers types operation

def declaration (types : Java.TypeMap) (name : String) (superclass : Option TypeName)
    (implemented : List TypeName) : Fragment :=
  let parent := match superclass with
    | some t => types.map t .overlayReturn
    | none => javaScriptObject
  let mapped := implemented.map fun t => types.map t .contract
  ⟨["public class " ++ name ++ " extends " ++ parent.name ++
    clause "implements" (mapped.map (·.name))], parent :: mapped⟩

end Bindery.Overlay

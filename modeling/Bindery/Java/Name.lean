import Bindery.Text.Case

/-! # Java names -/

namespace Bindery.Java

/-- The words that no Java identifier may be. -/
def keywords : List String :=
  ["abstract", "assert", "boolean", "break", "byte", "case", "catch", "char", "class", "const",
   "continue", "default", "do", "double", "else", "enum", "extends", "final", "finally", "float",
   "for", "goto", "if", "implements", "import", "instanceof", "int", "interface", "long", "native",
   "new", "package", "private", "protected", "public", "return", "short", "static", "strictfp",
   "super", "switch", "synchronized", "this", "throw", "throws", "transient", "try", "void",
   "volatile", "while"]

/-- A name that is no keyword: a keyword gets an underscore. -/
def identifier (name : String) : String :=
  if keywords.contains name then name ++ "_" else name

/-- The name of the method that reads an attribute; a `boolean` one asks a question. -/
def getterName (name typeName : String) : String :=
  (if typeName = "boolean" then "is" else "get") ++ Text.capitalize name

def setterName (name : String) : String :=
  "set" ++ Text.capitalize name

end Bindery.Java

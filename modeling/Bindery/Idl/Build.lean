import Bindery.Idl.Interface

/-! # Building interfaces step by step -/

namespace Bindery

namespace Parent

def annotate (p : Parent) (name : String) (a : Annotation) : Parent :=
  { p with annotations := p.annotations.insert name a }

end Parent

namespace Attribute

/-- An attribute that can be read. -/
def getter (id : String) (type : TypeName) : Attribute :=
  { id, type }

/-- An attribute that can be written. -/
def setter (id : String) (type : TypeName) : Attribute :=
  { id, type, isGetter := false, isSetter := true }

def asReplaceable (a : Attribute) : Attribute :=
  { a with replaceable := true }

def annotate (a : Attribute) (name : String) (properties : Annotation) : Attribute :=
  { a with annotations := a.annotations.insert name properties }

end Attribute

namespace Operation

def withArgument (o : Operation) (a : Argument) : Operation :=
  { o with arguments := o.arguments ++ [a] }

def asStatic (o : Operation) : Operation :=
  { o with isStatic := true }

def annotate (o : Operation) (name : String) (a : Annotation) : Operation :=
  { o with annotations := o.annotations.insert name a }

end Operation

namespace Constant

def annotate (c : Constant) (name : String) (a : Annotation) : Constant :=
  { c with annotations := c.annotations.insert name a }

end Constant

namespace Interface

def withParent (i : Interface) (p : Parent) : Interface :=
  { i with parents := i.parents ++ [p] }

def withAttribute (i : Interface) (a : Attribute) : Interface :=
  { i with attributes := i.attributes ++ [a] }

def withOperation (i : Interface) (o : Operation) : Interface :=
  { i with operations := i.operations ++ [o] }

def withConstant (i : Interface) (c : Constant) : Interface :=
  { i with constants := i.constants ++ [c] }

def withExtension (i : Interface) (name : String) (value : Option String) : Interface :=
  { i with extensions := i.extensions.insert name value }

def annotate (i : Interface) (name : String) (a : Annotation) : Interface :=
  { i with annotations := i.annotations.insert name a }

def inModule (i : Interface) (name : String) : Interface :=
  { i with module := some name }

def withConstructor (i : Interface) (arguments : List Argument) : Interface :=
  { i with constructorArguments := some arguments }

end Interface

end Bindery

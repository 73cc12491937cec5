import Bindery.Idl.Walk

/-! # Roles of interfaces

Some interfaces play a part that their names or extended attributes give away: event sources,
typed arrays and callbacks. -/

namespace Bindery

/-! ### Event sources -/

/-- Gives an event source the parent that all event targets have. -/
def Interface.addEventTarget (target : String) (i : Interface) : Interface :=
  if i.hasExtension "EventTarget" && i.id != target && !i.hasParent target then
    { i with parents := i.parents ++ [{ type := target }] }
  else i

namespace Graph

/-- Gives every event source the parent that all event targets have. -/
def addEventTargets (g : Graph) (target : String) : Graph :=
  g.mapInterfaces (Interface.addEventTarget target)

/-- The event sources that lack that parent. -/
def bareEventSources (g : Graph) (target : String) : List String :=
  (g.interfaces.filter fun i =>
    i.hasExtension "EventTarget" && i.id != target && !i.hasParent target).map (·.id)

/-! ### Typed arrays -/

/-- The parent of every view onto a buffer. -/
def bufferView : String := "ArrayBufferView"

/-- The storage behind typed arrays. -/
def buffer : String := "ArrayBuffer"

/-- Whether an interface is a view onto a buffer whose name ends in `Array`. -/
def isTypedArray (g : Graph) (i : Interface) : Bool :=
  "Array".toList.isSuffixOf i.id.toList && i.id != bufferView &&
    (i.hasParent bufferView || (g.primaryAncestors i).any (·.id = bufferView))

end Graph

/-! ### Callbacks -/

namespace Interface

def isCallback (i : Interface) : Bool :=
  i.hasExtension "Callback"

/-- The operation of a callback, which has exactly one. -/
def callbackOperation? (i : Interface) : Option Operation :=
  if i.isCallback then
    match i.operations with
    | [o] => some o
    | _ => none
  else none

end Interface

end Bindery

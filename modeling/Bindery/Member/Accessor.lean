import Bindery.Idl.Interface

/-! # Accessors

The attributes of one name form an `AccessorPair`: the first getter and the first setter that is not
replaceable. -/

namespace Bindery

/-- The getter and the setter of an attribute name. -/
structure AccessorPair where
  getter : Option Attribute := none
  setter : Option Attribute := none
  /-- Whether an ancestor has the getter. -/
  inheritedGetter : Bool := false
  /-- Whether an ancestor has the setter. -/
  inheritedSetter : Bool := false
  deriving DecidableEq

namespace AccessorPair

/-- One of the two attributes, the getter if there is one. -/
def attribute? (p : AccessorPair) : Option Attribute :=
  p.getter.or p.setter

def ofName (attributes : List Attribute) (name : String) : AccessorPair :=
  { getter := attributes.find? fun a => a.id = name ∧ a.isGetter = true
    setter := attributes.find? fun a => a.id = name ∧ a.hasSetter = true }

/-- The pairs of some attributes in ascending order of names, without names that have neither a
getter nor a setter. -/
def ofAttributes (attributes : List Attribute) : List AccessorPair :=
  ((NameSet.ofNames (attributes.map (·.id))).keys.map (ofName attributes)).filter
    fun p => p.attribute?.isSome

end AccessorPair

/-- The accessors that an attribute declares, each as one text. -/
def Attribute.accessorKeys (a : Attribute) : List String :=
  (if a.isGetter then ["getter_" ++ a.emittedName] else []) ++
    (if a.isSetter then ["setter_" ++ a.emittedName] else [])

/-- Marks the accessors that are among those of the ancestors. -/
def AccessorPair.markInherited (keys : List String) (p : AccessorPair) : AccessorPair :=
  { p with
    inheritedGetter := p.getter.any fun a => keys.contains ("getter_" ++ a.emittedName)
    inheritedSetter := p.setter.any fun a => keys.contains ("setter_" ++ a.emittedName) }

end Bindery

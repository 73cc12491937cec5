import Bindery.Document.Json
import Bindery.File.Path
import Bindery.Idl.Filter

/-! # Reports -/

namespace Bindery

/-- What the generation of a target did. -/
structure Report where
  /-- The name of the target. -/
  target : String := ""
  /-- The interfaces that went through all calls, in order. -/
  interfaces : List String := []
  callbacks : List String := []
  /-- The interfaces that are written by hand. -/
  skipped : List String := []
  mixins : NameSet := SortedMap.empty
  /-- The exceptions that generated interfaces raise. -/
  exceptions : NameSet := SortedMap.empty
  /-- The files that were written. -/
  files : List Path := []
  filter : Option FilterReport := none
  deriving DecidableEq

namespace Unidentified

def document (u : Unidentified) : Document :=
  .record [("interface", .text u.interface), ("member", .text u.member),
    ("type_name", .text u.typeName)]

end Unidentified

namespace FilterReport

def document (r : FilterReport) : Document :=
  .record [("removed_interfaces", .ofTexts r.removedInterfaces),
    ("removed_members", .ofNat r.removedMembers),
    ("unidentified", .list (r.unidentified.map Unidentified.document))]

end FilterReport

namespace Report

/-- A report as a document; without a filter report there is no field for it. -/
def document (r : Report) : Document :=
  .record ([("target", .text r.target), ("interfaces", .ofTexts r.interfaces),
    ("callbacks", .ofTexts r.callbacks), ("skipped", .ofTexts r.skipped),
    ("mixins", .ofTexts r.mixins.keys), ("exceptions", .ofTexts r.exceptions.keys),
    ("files", .ofTexts (r.files.map (·.text)))] ++
    (r.filter.map fun f => ("filter", f.document)).toList)

def toJson (reports : List Report) : String :=
  Json.pretty (.list (reports.map document))

end Report

end Bindery

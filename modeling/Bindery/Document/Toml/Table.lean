import Bindery.Document

/-! # Tables of a TOML text

A TOML text fills tables that may be written in several places.  `Table.define` adds a value and
`Table.header`, `Table.item` open the table that a header names.  A table may be opened by one
header only, a table made by dotted keys by none, and a value stays as it is. -/

namespace Bindery.Toml

/-- How a table came into being. -/
inductive Origin where
  /-- By a header of its own. -/
  | header
  /-- By the header of a table inside it. -/
  | passing
  /-- By a dotted key. -/
  | dotted
  deriving DecidableEq

/-- What a key stands for. -/
inductive Entry where
  | value (d : Document)
  | table (origin : Origin) (entries : List (String × Entry))
  /-- A list of tables, each opened by a header. -/
  | tables (items : List (List (String × Entry)))

abbrev Table := List (String × Entry)

namespace Table

/-- Puts an entry in place of the one with its key. -/
def replace (t : Table) (key : String) (entry : Entry) : Table :=
  t.map fun e => if e.1 = key then (key, entry) else e

/-- Changes the table at the end of a path of keys.  Tables that are missing are made on the way; in
a list of tables the last one is meant.  A dotted path does not enter tables with a header. -/
def change (dotted : Bool) (f : Origin → Table → Option Table) :
    List String → Origin → Table → Option Table
  | [], origin, t => f origin t
  | key :: rest, _, t =>
    match t.lookup key with
    | none =>
      let origin := if dotted then .dotted else .passing
      (change dotted f rest origin []).map fun inner => t ++ [(key, .table origin inner)]
    | some (.value _) => none
    | some (.tables items) =>
      match items.getLast? with
      | none => none
      | some last =>
        (change dotted f rest .header last).map fun inner =>
          t.replace key (.tables (items.dropLast ++ [inner]))
    | some (.table origin inner) =>
      if dotted && origin = .header then none
      else
        (change dotted f rest origin inner).map fun inner => t.replace key (.table origin inner)

/-- Adds a value under a key that is free. -/
def add (t : Table) (key : String) (d : Document) : Option Table :=
  match t.lookup key with
  | none => some (t ++ [(key, .value d)])
  | some _ => none

/-- Adds a value under a dotted key: the tables on the way, and the last key. -/
def define (t : Table) (path : List String) (key : String) (d : Document) : Option Table :=
  change true (fun origin t => if (origin = .dotted) = path.isEmpty then none else t.add key d)
    path .header t

/-- Opens the table of a header. -/
def header (t : Table) (path : List String) (key : String) : Option Table :=
  change false (fun _ t =>
    match t.lookup key with
    | none => some (t ++ [(key, .table .header [])])
    | some (.table .passing inner) => some (t.replace key (.table .header inner))
    | some _ => none) path .header t

/-- Opens a further table of the list that a header names. -/
def item (t : Table) (path : List String) (key : String) : Option Table :=
  change false (fun _ t =>
    match t.lookup key with
    | none => some (t ++ [(key, .tables [[]])])
    | some (.tables items) => some (t.replace key (.tables (items ++ [[]])))
    | some _ => none) path .header t

end Table

mutual

def Entry.document : Entry → Document
  | .value d => d
  | .table _ entries => .record (documents entries)
  | .tables items => .list (records items)

def documents : List (String × Entry) → List (String × Document)
  | [] => []
  | (key, entry) :: rest => (key, entry.document) :: documents rest

def records : List (List (String × Entry)) → List Document
  | [] => []
  | entries :: rest => .record (documents entries) :: records rest

end

end Bindery.Toml

import Bindery.Emit.Run

/-! # Targets

Each target filters and renames its own copy of the graph, and is generated and written on its own.
The first target that fails ends the run. -/

namespace Bindery

/-! ### Preparing the graph -/

/-- A graph that was filtered and renamed for a target. -/
structure Prepared where
  graph : Graph
  filter : FilterReport
  notes : List Note

def Unidentified.note (u : Unidentified) : Note :=
  .warn ("removing " ++ u.member ++ " in " ++ u.interface ++ " which has unidentified type " ++
    u.typeName)

def Renaming.note : Renaming → Note
  | .renamed old new => .info ("renaming interface " ++ old ++ " to " ++ new)
  | .merged old new => .info ("merging interface " ++ old ++ " into " ++ new)

namespace Target

/-- Filters a graph; without a filter only members of unidentified type go. -/
def filtered (t : Target) (g : Graph) : Graph × FilterReport :=
  match t.filter with
  | some f => (f.apply g, f.report g)
  | none => (g.prune, { unidentified := g.pruned })

/-- Renames the interfaces of a graph, round by round. -/
def renameAll (name : String) (g : Graph) : List RenamePass → Graph × List Note
  | [] => (g, [])
  | pass :: rest =>
    let (g, outcomes) := pass.apply g
    let summary := .info (name ++ ": renamed " ++ toString outcomes.length ++ " interfaces")
    let (g, notes) := renameAll name g rest
    (g, outcomes.map Renaming.note ++ summary :: notes)

/-- Filters and renames a graph for a target. -/
def prepare (t : Target) (g : Graph) : Prepared :=
  let (kept, report) := t.filtered g
  let summary := .info (t.name ++ ": " ++ toString kept.size ++ " interfaces after filtering (" ++
    toString report.removedInterfaces.length ++ " removed)")
  let (graph, notes) := renameAll t.name kept t.renames
  ⟨graph, report, report.unidentified.map Unidentified.note ++ summary :: notes⟩

end Target

/-! ### Generating -/

/-- The backends of some names at work, with the templates they find. -/
def stationsFor (c : Config) (tree : FileTree) (systems : List Backend) :
    Except Error (List Station) :=
  systems.mapM fun b =>
    (Templates.load tree c.templateDir b.searchPaths).map fun templates =>
      { backend := b, templates }

/-- The names of interfaces that are written by hand. -/
def auxiliaryNames (c : Config) (tree : FileTree) : Except Error NameSet :=
  match c.auxiliaryDir with
  | none => .ok SortedMap.empty
  | some dir =>
    match tree.stems? dir with
    | some names => .ok names
    | none => .error (.file dir.text)

/-- A target as it was generated, before anything is written. -/
structure Generated where
  output : Output := {}
  notes : List Note
  outcome : Except Error Report

namespace Target

/-- Generates a target from a loaded graph. -/
def generate (t : Target) (c : Config) (tree : FileTree) (g : Graph) : Generated :=
  let prepared := t.prepare g
  match stationsFor c tree t.systems with
  | .error e => { notes := prepared.notes, outcome := .error e }
  | .ok stations =>
    match auxiliaryNames c tree with
    | .error e => { notes := prepared.notes, outcome := .error e }
    | .ok auxiliary =>
      let generation := Bindery.generate c auxiliary stations prepared.graph
      { output := generation.output
        notes := prepared.notes ++ generation.notes
        outcome := generation.outcome.map fun r =>
          { r with target := t.name, filter := some prepared.filter } }

end Target

/-! ### Writing -/

/-- What comes of an activity that may write files. -/
structure Written (α : Type) where
  tree : FileTree
  notes : List Note := []
  outcome : Except Error α

namespace Target

/-- Generates a target and writes its units below its output directory. -/
def run (t : Target) (c : Config) (tree : FileTree) (g : Graph) : Written Report :=
  let generated := t.generate c tree g
  match generated.outcome with
  | .error e => { tree, notes := generated.notes, outcome := .error e }
  | .ok report =>
    let flushing := .info ("Flush " ++ toString generated.output.size ++ " output units to " ++
      t.outputDir.text)
    match generated.output.flush tree t.outputDir with
    | (tree, .error e) => { tree, notes := generated.notes ++ [flushing], outcome := .error e }
    | (tree, .ok files) =>
      let wrote := .info (t.name ++ ": wrote " ++ toString files.length ++ " files to " ++
        t.outputDir.text)
      { tree
        notes := generated.notes ++ [flushing, wrote]
        outcome := .ok { report with files } }

/-- The list of the backends of a target. -/
def systemsText (t : Target) : String :=
  "[" ++ String.intercalate ", " (t.systems.map Backend.label) ++ "]"

/-- Runs targets in order, up to the first that fails. -/
def runAll (c : Config) (tree : FileTree) (g : Graph) : List Target → Written (List Report)
  | [] => { tree, outcome := .ok [] }
  | t :: rest =>
    let announced := .info ("Generating target " ++ t.name ++ " (" ++ t.systemsText ++ ")")
    let first := t.run c tree g
    match first.outcome with
    | .error e =>
      { tree := first.tree
        notes := announced :: first.notes
        outcome := .error (.target t.name e) }
    | .ok report =>
      let others := runAll c first.tree g rest
      { others with
        notes := announced :: first.notes ++ others.notes
        outcome := others.outcome.map (report :: ·) }

end Target

def Config.run (c : Config) (tree : FileTree) (g : Graph) : Written (List Report) :=
  Target.runAll c tree g c.targets

end Bindery

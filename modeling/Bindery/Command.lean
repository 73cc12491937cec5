import Bindery.Config.Read
import Bindery.Idl.Load
import Bindery.Target

/-! # Commands

`generate` runs all targets of a configuration, `filter` writes the filtered and renamed database of
one target, and `mixins` lists its mixins. -/

namespace Bindery

/-- A command with its operands. -/
inductive Command where
  | generate (database : Path) (config : Option Path) (output : Option Path)
      (systems : List String) (report : Option Path)
  | filter (database : Path) (config : Option Path) (target : Option String) (output : Path)
  | mixins (database : Path) (config : Option Path) (target : Option String)
  deriving DecidableEq

/-- Why a command fails: a cause, and often what was tried. -/
structure Failure where
  attempt : Option String := none
  cause : Error
  deriving DecidableEq

/-- The wording of a failure: what was tried, or else the cause. -/
def Failure.message (f : Failure) : String :=
  f.attempt.getD f.cause.message

/-- What comes of a command. -/
structure Finished (α : Type) where
  tree : FileTree
  notes : List Note := []
  outcome : Except Failure α

namespace Command

/-! ### Loading -/

def loadDatabase (tree : FileTree) (p : Path) : Except Failure Graph :=
  match Database.load tree p with
  | .ok g => .ok g
  | .error cause => .error ⟨some ("Failed to load interface database " ++ p.text), cause⟩

def loadedNote (p : Path) (g : Graph) : Note :=
  .info ("Loaded " ++ toString g.size ++ " interfaces from " ++ p.text)

def readConfig (tree : FileTree) (p : Path) : Except Error Config :=
  match tree.read? p with
  | none => .error (.file p.text)
  | some text => Config.ofToml text

/-- Loads a configuration, which has defaults for everything if no file is given. -/
def loadConfig (tree : FileTree) : Option Path → Except Failure Config
  | none => .ok {}
  | some p =>
    match readConfig tree p with
    | .ok c => .ok c
    | .error cause => .error ⟨some ("Failed to load config " ++ p.text), cause⟩

/-- Loads a database and a configuration, and goes on with both. -/
def withInputs {α : Type} (tree : FileTree) (database : Path) (config : Option Path)
    (go : Graph → Config → Finished α) : Finished α :=
  match loadDatabase tree database with
  | .error f => { tree, outcome := .error f }
  | .ok g =>
    let loaded := loadedNote database g
    match loadConfig tree config with
    | .error f => { tree, notes := [loaded], outcome := .error f }
    | .ok c =>
      let done := go g c
      { done with notes := loaded :: done.notes }

/-! ### Generating -/

/-- Sets the output directory and the backends of the first target, where they are given. -/
def overrideFirst (c : Config) (output : Option Path) (systems : List String) :
    Except Error Config :=
  if output.isNone ∧ systems.isEmpty then .ok c
  else
    let (first, others) : Target × List Target := match c.targets with
      | [] => ({}, [])
      | t :: rest => (t, rest)
    match systems.mapM Backend.parse with
    | .error e => .error e
    | .ok backends =>
      let first := { first with
        outputDir := output.getD first.outputDir
        systems := if systems.isEmpty then first.systems else backends }
      .ok { c with targets := first :: others }

/-- Writes a file, and adds a note on it. -/
def writeFile {α : Type} (tree : FileTree) (notes : List Note) (p : Path) (content : String)
    (attempt : String) (wrote : Note) (result : α) : Finished α :=
  match tree.write? p content with
  | some tree => { tree, notes := notes ++ [wrote], outcome := .ok result }
  | none => { tree, notes, outcome := .error ⟨some (attempt ++ p.text), .file p.text⟩ }

/-- Runs all targets, and writes a report if one is asked for. -/
def runGenerate (tree : FileTree) (database : Path) (config output : Option Path)
    (systems : List String) (report : Option Path) : Finished (List Report) :=
  withInputs tree database config fun g c =>
    match overrideFirst c output systems with
    | .error cause => { tree, outcome := .error ⟨none, cause⟩ }
    | .ok c =>
      let done := c.run tree g
      match done.outcome, report with
      | .error cause, _ =>
        { tree := done.tree
          notes := done.notes
          outcome := .error ⟨some ("Failed to generate from " ++ database.text), cause⟩ }
      | .ok reports, none => { tree := done.tree, notes := done.notes, outcome := .ok reports }
      | .ok reports, some p =>
        writeFile done.tree done.notes p (Report.toJson reports) "Failed to write report "
          (.info ("Wrote report to " ++ p.text)) reports

/-! ### Filtering -/

/-- Writes the filtered and renamed database of a target. -/
def runFilter (tree : FileTree) (database : Path) (config : Option Path) (target : Option String)
    (output : Path) : Finished Unit :=
  withInputs tree database config fun g c =>
    match c.target target with
    | .error cause => { tree, outcome := .error ⟨none, cause⟩ }
    | .ok t =>
      let prepared := t.prepare g
      let wrote := .info ("Wrote " ++ toString prepared.graph.size ++ " interfaces to " ++
        output.text ++ " (" ++ toString prepared.filter.removedInterfaces.length ++ " removed, " ++
        toString prepared.filter.unidentified.length ++ " unidentified members)")
      writeFile tree prepared.notes output (Database.toJson prepared.graph)
        "Failed to write filtered database " wrote ()

/-! ### Listing mixins -/

/-- The mixins of a target, found by a run without backends. -/
def runMixins (tree : FileTree) (database : Path) (config : Option Path)
    (target : Option String) : Finished (List String) :=
  withInputs tree database config fun g c =>
    match c.target target with
    | .error cause => { tree, outcome := .error ⟨none, cause⟩ }
    | .ok t =>
      let prepared := t.prepare g
      let generation := Bindery.generate c SortedMap.empty [] prepared.graph
      { tree
        notes := prepared.notes ++ generation.notes
        outcome := match generation.outcome with
          | .ok report => .ok report.mixins.keys
          | .error cause => .error ⟨none, cause⟩ }

/-! ### All commands -/

def summary (r : Report) : Note :=
  .info (r.target ++ ": " ++ toString r.interfaces.length ++ " interfaces, " ++
    toString r.callbacks.length ++ " callbacks, " ++ toString r.files.length ++ " files")

/-- Carries a command out; the outcome is the lines that it prints. -/
def run (tree : FileTree) : Command → Finished (List String)
  | .generate database config output systems report =>
    let done := runGenerate tree database config output systems report
    match done.outcome with
    | .ok reports =>
      { tree := done.tree, notes := done.notes ++ reports.map summary, outcome := .ok [] }
    | .error f => { tree := done.tree, notes := done.notes, outcome := .error f }
  | .filter database config target output =>
    let done := runFilter tree database config target output
    { tree := done.tree, notes := done.notes, outcome := done.outcome.map fun _ => [] }
  | .mixins database config target => runMixins tree database config target

end Command

end Bindery

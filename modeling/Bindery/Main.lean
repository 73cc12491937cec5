import Bindery.Command.Arguments

/-! # The program

The program looks at the files that a command line mentions, runs the command on that picture of
them, prints what it says, and writes the files that changed. -/

namespace Bindery

/-- What is printed as help. -/
def usage : String :=
  "Generate single-inheritance Java bindings from an interface database\n\n" ++
  "Usage: interlace [OPTIONS] <COMMAND>\n\n" ++
  "Commands:\n" ++
  "  generate  Run filter, rename and generation for every configured target\n" ++
  "  filter    Write the filtered and renamed database as JSON\n" ++
  "  mixins    Print the computed mixin set\n" ++
  "  help      Print this message or the help of the given subcommand(s)\n\n" ++
  "Options:\n" ++
  "  -v, --verbose  Enable verbose output\n" ++
  "  -d, --debug    Enable debug output\n" ++
  "  -h, --help     Print help"

namespace Disk

/-- The place that a path names, as far as its spelling tells. -/
def placeOf (tree : FileTree) (p : Path) : Location :=
  p.components.foldl FileTree.step tree.working

/-- The absolute path of a place. -/
def absolute (place : Location) : String :=
  "/" ++ FileTree.pathText place

def isDirectory (place : Location) : IO Bool := do
  try
    let path ← IO.FS.realPath (absolute place)
    path.isDir
  catch _ => return false

def names (place : Location) : IO (List String) := do
  let path ← IO.FS.realPath (absolute place)
  let entries ← path.readDir
  return entries.toList.map (·.fileName)

/-- Adds the directories on the way to a place that are there. -/
def observeWay (tree : FileTree) (place : Location) : IO FileTree :=
  (List.range (place.length + 1)).foldlM (fun tree n => do
    if ← isDirectory (place.take n) then return tree.addDirectory (place.take n)
    else return tree) tree

/-- Adds the file at a place, if there is one that can be read. -/
def observeFile (tree : FileTree) (place : Location) : IO FileTree := do
  let tree ← observeWay tree place
  try
    return { tree with files := tree.files.insert place (← IO.FS.readFile (absolute place)) }
  catch _ => return tree

/-- Adds everything at and below a place. -/
partial def observeAll (tree : FileTree) (place : Location) : IO FileTree := do
  if ← isDirectory place then
    let tree ← observeWay tree place
    (← names place).foldlM (fun tree name => observeAll tree (place ++ [name])) tree
  else observeFile tree place

/-- Writes the files that one tree has and another has not. -/
def writeChanges (after before : FileTree) : IO Unit :=
  for (place, content) in after.files.entries do
    if before.files.find? place != some content then
      IO.FS.createDirAll (absolute place.dropLast)
      IO.FS.writeFile (absolute place) content

end Disk

namespace Command

/-- The database and the configuration of a command. -/
def inputs : Command → List Path
  | .generate database config _ _ _ => database :: config.toList
  | .filter database config _ _ => database :: config.toList
  | .mixins database config _ => database :: config.toList

/-- The files that a command may write outside its targets. -/
def outputs : Command → List Path
  | .generate _ _ output _ report => output.toList ++ report.toList
  | .filter _ _ _ output => [output]
  | .mixins _ _ _ => []

def configFile? : Command → Option Path
  | .generate _ config _ _ _ => config
  | .filter _ config _ _ => config
  | .mixins _ config _ => config

/-- Looks at the files that a command mentions. -/
def observe (command : Command) (tree : FileTree) : IO FileTree := do
  let mut tree := tree
  for p in command.inputs ++ command.outputs do
    tree ← Disk.observeFile tree (Disk.placeOf tree p)
  match loadConfig tree command.configFile? with
  | .error _ => return tree
  | .ok c =>
    for t in c.targets do
      tree ← Disk.observeFile tree (Disk.placeOf tree t.outputDir)
    for p in c.templateDir.toList ++ c.auxiliaryDir.toList do
      tree ← Disk.observeAll tree (Disk.placeOf tree p)
    return tree

end Command

def Level.word : Level → String
  | .info => "INFO"
  | .warn => "WARN"

end Bindery

open Bindery in
def main (arguments : List String) : IO UInt32 := do
  let config ← IO.getEnv "INTERLACE_CONFIG"
  let here : Path := ⟨toString (← IO.currentDir)⟩
  let start : FileTree := { working := here.components.foldl FileTree.step [] }
  let before ← match Arguments.parse config arguments with
    | .ok invocation => invocation.command.observe (start.addDirectories start.working)
    | .error _ => pure start
  let ending := Arguments.runProgram before config arguments
  for note in ending.notes do
    IO.println (note.level.word ++ " " ++ String.intercalate "\n" note.lines)
  match ending.printed with
  | some lines => lines.forM IO.println
  | none => if ending.exit = 0 then IO.println usage else IO.eprintln usage
  match ending.error with
  | some text => IO.eprintln text
  | none => pure ()
  try
    Disk.writeChanges ending.tree before
    return ending.exit.toUInt32
  catch e =>
    IO.eprintln ("Error: " ++ toString e)
    return 1

import Bindery.Idl.Graph

/-! # What can go wrong

`Error` lists the causes for which a run ends without a result, and `Error.message` words them. -/

namespace Bindery

/-- Why a run ends without a result. -/
inductive Error where
  /-- An interface is missing from the graph, or occurs twice in a database. -/
  | graph (cause : GraphError)
  /-- A file or directory cannot be read or written. -/
  | file (path : String)
  /-- A text is no JSON database. -/
  | json
  /-- A text is no YAML database. -/
  | yaml
  /-- A text is no configuration. -/
  | config
  /-- A template cannot be read. -/
  | template (name : String)
  /-- A template asks for something that it is not given, or is not there. -/
  | render (name : String)
  /-- No backend has this name. -/
  | unknownBackend (name : String)
  /-- A synthesized member needs an interface that the graph lacks. -/
  | missingInterface (name context : String)
  /-- No target has this name. -/
  | noTarget (name : String)
  /-- There is no target at all. -/
  | noTargets
  /-- A member was announced for an interface that was not started. -/
  | memberBeforeStart (id : String)
  /-- An interface was finished that was not started. -/
  | finishBeforeStart (id : String)
  /-- A target failed. -/
  | target (name : String) (cause : Error)
  deriving DecidableEq

def GraphError.message : GraphError → String
  | .notFound id => "Interface not found: " ++ id
  | .duplicate id => "Duplicate interface in database: " ++ id

def Error.message : Error → String
  | .graph cause => cause.message
  | .file path => "IO error: " ++ path
  | .json => "JSON error: no interface database"
  | .yaml => "YAML error: no interface database"
  | .config => "Invalid configuration: no configuration"
  | .template name => "Template error: " ++ name
  | .render name => "Render error: " ++ name
  | .unknownBackend name => "Unknown backend: " ++ name
  | .missingInterface name context => "Interface '" ++ name ++ "' not found (" ++ context ++ ")"
  | .noTarget name => "Code generation error: no target named '" ++ name ++ "'"
  | .noTargets => "Code generation error: no targets configured"
  | .memberBeforeStart id => "Code generation error: " ++ id ++ " used before start_interface"
  | .finishBeforeStart id => "Code generation error: " ++ id ++ " finished before start_interface"
  | .target name cause => "Target '" ++ name ++ "' failed: " ++ cause.message

end Bindery

import LintReview.CommandLine.Basic

/-!
# The program

The program takes its arguments and its environment from the system and the configuration
from its file. Here it stands alone: no other program is launched, no repository is opened
and no server answers, so a run that needs one of them ends with what it says about that.
-/

namespace LintReview.Program

/-- The variables that a run looks at. -/
def variableNames : List String :=
  [ "GITHUB_ACTIONS", "GITHUB_REPOSITORY", "GITHUB_TOKEN", "GITHUB_EVENT_NAME",
    "GITHUB_EVENT_PATH", "GITHUB_BASE_REF", "GITHUB_HEAD_REF", "GITHUB_REF", "GITHUB_SHA",
    "GITHUB_WORKSPACE", "GITHUB_STEP_SUMMARY", "GITHUB_OUTPUT", "LINTLENS_CONFIG" ]

/-- The surroundings of a program that stands alone. -/
def alone : Host where
  outcome _ _ := .failed .missing
  openError _ _ := some .missing
  difference _ _ _ := .ok ""
  refusal _ _ := some ⟨503, none⟩
  login := ""

/-- The path of the configuration file that arguments and environment name. -/
def configPath (bindings : List (String × String)) (arguments : List String) : String :=
  match CommandLine.topGrammar.read arguments with
  | .ok (given, _) => CommandLine.configPathOf given bindings
  | .error _ => CommandLine.usualConfigPath

/-- The world at the start, with the content of the configuration file if there is one. -/
def worldWith (path : String) (content : Option (List UInt8)) : World where
  files := ⟨(content.map fun bytes => ((pathComponents path).filter (!isIdle ·), bytes)).toList⟩
  comments := []
  nextComment := 1
  console := ""
  effects := []

/-- The words for what is handed on. -/
def uncaughtMessage : CommandLine.Uncaught → String
  | .config _ => CommandLine.Ending.errorLine "the configuration cannot be read"
  | .run cause => CommandLine.Ending.errorLine cause.message

/-- What is written as an error. -/
def errorText (ending : CommandLine.Ending) : String :=
  match ending with
  | .uncaught cause => uncaughtMessage cause
  | other => other.errorOutput

/-- The variables that are set. -/
def readVariables : List String → IO (List (String × String))
  | [] => return []
  | name :: rest => do
    let others ← readVariables rest
    match ← IO.getEnv name with
    | some value => return (name, value) :: others
    | none => return others

/-- The content of a file, if it can be read. -/
def readFile (path : String) : IO (Option (List UInt8)) := do
  try
    let bytes ← IO.FS.readBinFile path
    return some bytes.toList
  catch _ => return none

end LintReview.Program

open LintReview in
/-- The program. -/
def main (arguments : List String) : IO UInt32 := do
  let bindings ← Program.readVariables Program.variableNames
  let path := Program.configPath bindings arguments
  let start := Program.worldWith path (← Program.readFile path)
  let (ending, world) := (CommandLine.execute Program.alone bindings arguments).run start
  IO.print world.console
  IO.eprint (Program.errorText ending)
  return UInt32.ofNat ending.exitCode.toNat

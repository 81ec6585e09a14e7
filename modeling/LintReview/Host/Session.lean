import LintReview.Failure

/-!
# The world of a run

A run acts on the world: it launches programs, asks the repository and the server, and
puts text at the end of files. The world keeps the files, the comments on the pull
request, what was printed and, in order, all that was done. How programs, repository and
server answer is up to the host, and may depend on what was done before.
-/

namespace LintReview

/-- Something that is done to the world. -/
inductive Effect where
  | launch (launch : Launch)
  | openRepository (path : String)
  | difference (target source : String)
  | github (call : Github.Call)
  | append (path text : String)
  deriving Repr, DecidableEq

/-- How the surroundings of a run answer, after the given effects. -/
structure Host where
  outcome : List Effect → Launch → Outcome
  openError : List Effect → String → Option Git.OpenError
  difference : List Effect → (target source : String) → Except Git.CommandError String
  refusal : List Effect → Github.Call → Option Github.Refusal
  /-- The name under which the run posts. -/
  login : String

/-- What a run finds and changes. -/
structure World where
  files : FileTree
  comments : List Github.Comment
  /-- The number of the next comment. -/
  nextComment : Int
  /-- What was printed. -/
  console : String
  /-- What was done, in order. -/
  effects : List Effect

/-- A part of a run, which acts on the world and may fail. -/
abbrev Session := ExceptT Failure (StateM World)

namespace World

/-- The world after one more effect. -/
def record (world : World) (effect : Effect) : World :=
  { world with effects := world.effects ++ [effect] }

end World

/-- The launches among effects. -/
def launchesOf (effects : List Effect) : List Launch :=
  effects.filterMap fun
    | .launch launch => some launch
    | _ => none

/-- The calls of the server among effects. -/
def callsOf (effects : List Effect) : List Github.Call :=
  effects.filterMap fun
    | .github call => some call
    | _ => none

namespace Session

/-- Does something, and says what was done before. -/
def perform (effect : Effect) : Session (List Effect) := do
  let world ← get
  set (world.record effect)
  return world.effects

/-- Launches a program. -/
def launch (host : Host) (launch : Launch) : Session Outcome := do
  let before ← perform (.launch launch)
  return host.outcome before launch

/-- Runs a program in a folder. -/
def execute (host : Host) (program : String) (arguments : List String) (folder : String) :
    Session CommandResult := do
  let request : Launch := ⟨program, arguments, some folder⟩
  let outcome ← launch host request
  match CommandResult.ofOutcome request outcome with
  | .ok result => return result
  | .error cause => throw (.launch cause request)

/-- Asks the server. -/
def ask (host : Host) (call : Github.Call) : Session Unit := do
  let before ← perform (.github call)
  match host.refusal before call with
  | none => return ()
  | some refusal => throw (.github refusal)

/-- Puts text at the end of a file. -/
def append (path text : String) : Session Unit := do
  let _ ← perform (.append path text)
  let world ← get
  match world.files.append path (Text.encode text.toList) with
  | .ok files => set { world with files := files }
  | .error cause => throw (.file cause)

/-- The content of a file. -/
def read (path : String) : Session (Except FileError (List UInt8)) := do
  return (← get).files.read path

/-- Prints a text. -/
def print (text : String) : Session Unit :=
  modify fun world => { world with console := world.console ++ text }

/-- The change from one revision to another in a repository. -/
def loadChange (host : Host) (path target source : String) : Session Diff.Change := do
  let before ← perform (.openRepository path)
  match host.openError before path with
  | some cause => throw (.repository cause path)
  | none =>
    let before ← perform (.difference target source)
    match host.difference before target source with
    | .error cause => throw (.git cause)
    | .ok text =>
      -- the answer comes without its last newline
      match Diff.Change.ofDiff (if text = "" then "" else text ++ "\n") with
      | .ok change => return change
      | .error cause => throw (.change cause)

end Session

end LintReview

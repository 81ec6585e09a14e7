import LintReview.CommandLine.Ending
import LintReview.Environment
import LintReview.Run.Basic
import LintReview.Token

/-!
# The command line

The arguments are read, then the configuration, then the context is made; only then does the
run begin. A token is looked for before the context is made, and only if the run is to post
and no token is given.
-/

namespace LintReview.CommandLine

/-- A part of a command, which may end it. -/
abbrev Step := ExceptT Ending (StateM World)

namespace Step

/-- A part of a run, whose failure ends the command as it is. -/
def ofSession {α : Type} (onFailure : Failure → Ending) (session : Session α) : Step α := do
  match ← session.run with
  | .ok value => return value
  | .error cause => throw (onFailure cause)

/-- Prints a text as it is. -/
def print (text : String) : Step Unit :=
  modify fun world => { world with console := world.console ++ text }

end Step

/-- The line that gives the version. -/
def versionLine : String := "lintlens, version 0.1.0\n"

/-- The last line of a run. -/
def verdict (passed : Bool) : String :=
  if passed then "[green]lintlens: all checks passed.[/green]"
  else "[red]lintlens: clang-tidy reported failures.[/red]"

/-- The path of the configuration file: from the options, or else from the environment. -/
def configPathOf (given : List (Given TopParameter)) (bindings : List (String × String)) : String :=
  match lastText? given .config with
  | some path => path
  | none => ((bindings.lookup "LINTLENS_CONFIG").filter (· ≠ "")).getD usualConfigPath

/-- How a failure of a run ends the command. -/
def endingOf (context : Context) : Failure → Ending
  | .github refusal => .refused refusal
  | .git cause => .noDifference context.target context.source cause
  | cause => .uncaught (.run cause)

/-- The configuration of a run. -/
def configFor (path : String) (request : RunRequest) : Step Table := do
  let overrides : Table :=
    [ (.text Config.analyzerSection, .table request.analyzer.entries),
      (.text Config.formatterSection, .table request.formatter.entries) ]
  match Config.load (← get).files path overrides with
  | .ok config => return config
  | .error cause => throw (.uncaught (.config cause))

/-- The options with a token, which is looked for if the run is to post without one. -/
def withToken (host : Host) (environment : Environment) (options : RunOptions) : Step RunOptions :=
  if options.token.isNone && Context.posts options then do
    let token ← Step.ofSession (.uncaught ∘ .run) (Token.resolve host (some environment.token))
    return { options with token := token }
  else return options

/-- The context of a run. -/
def contextFor (options : RunOptions) (environment : Environment) : Step Context :=
  match Context.build options environment with
  | .ok context => return context
  | .error cause => throw (.misused .run (.context cause))

/-- What arguments ask of a run. -/
def requestOf (given : List (Given RunParameter)) (operands : List String) : Step RunRequest :=
  match RunRequest.ofGiven given with
  | .error cause => throw (.misused .run (.value cause))
  | .ok request =>
    if operands.isEmpty then return request
    else throw (.misused .run (.extraOperands operands))

/-- A run as it is asked for. -/
def perform (host : Host) (bindings : List (String × String)) (configPath : String)
    (request : RunRequest) : Step Ending := do
  let environment := Environment.ofVariables bindings
  let config ← configFor configPath request
  let options ← withToken host environment request.options
  let context ← contextFor options environment
  let run ← Step.ofSession (endingOf context) (Run.start host context config none false)
  Step.ofSession (.uncaught ∘ .run) (Session.say (verdict run.passed))
  return .finished run.exitCode

/-- The command with its arguments. -/
def runCommand (host : Host) (bindings : List (String × String)) (configPath : String)
    (arguments : List String) : Step Ending := do
  match runGrammar.read arguments with
  | .error cause => throw (.misused .run (.argument cause))
  | .ok (given, operands) =>
    if given.any fun option => option.target = .help then
      Step.print Command.run.help
      return .finished 0
    else
      let request ← requestOf given operands
      perform host bindings configPath request

/-- The options in front of a command and what follows them. The first of those that ask for
    the version or for help ends the program. -/
def readTop (arguments : List String) : Step (List (Given TopParameter) × List String) := do
  match topGrammar.read arguments with
  | .error cause => throw (.misused .top (.argument cause))
  | .ok (given, operands) =>
    match (given.map Given.target).find? (· ≠ .config) with
    | some .version =>
      Step.print versionLine
      throw (.finished 0)
    | some .help =>
      Step.print Command.top.help
      throw (.finished 0)
    | _ => return (given, operands)

/-- The program with its arguments. -/
def start (host : Host) (bindings : List (String × String)) (arguments : List String) :
    Step Ending := do
  if arguments.isEmpty then return .noArguments
  let (given, operands) ← readTop arguments
  match operands with
  | [] => throw (.misused .top .noCommand)
  | name :: rest =>
    if name = "run" then runCommand host bindings (configPathOf given bindings) rest
    else
      -- what looks like an option behind the end of the options is read as one
      let _ ← readTop operands
      throw (.misused .top (.unknownCommand name (similarNames ["run"] name)))

/-- How the program with its arguments ends, and the world afterwards. -/
def execute (host : Host) (bindings : List (String × String)) (arguments : List String) :
    StateM World Ending := do
  match ← (start host bindings arguments).run with
  | .ok ending => return ending
  | .error ending => return ending

end LintReview.CommandLine

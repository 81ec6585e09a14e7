import LintReview.CommandLine.Parameter
import LintReview.RunOptions
import LintReview.Setting
import LintReview.Text.Numeral
import LintReview.Text.Quoted

/-!
# What the arguments ask for

The options that are given for a run say what its context is, and they are laid over the
configuration. Of an option that is given more than once the last value counts. Two options
have values of a kind of their own, a number and a level of the log; a value that is none is
refused, the one whose option came first before the other.
-/

namespace LintReview.CommandLine

/-- What is asked of a checker. -/
structure CheckerRequest where
  takesPart : Option Bool
  program : Option String
  stopsEarly : Option Bool
  deriving Repr, DecidableEq

/-- What is asked of a run. -/
structure RunRequest where
  options : RunOptions
  analyzer : CheckerRequest
  formatter : CheckerRequest
  deriving Repr, DecidableEq

/-- Why a value is refused. -/
inductive ValueError where
  | number (text : String)
  | level (text : String)
  deriving Repr, DecidableEq

/-- The words for the error. -/
def ValueError.message : ValueError → String
  | .number text =>
    "Invalid value for '--pr-number': " ++ Text.quotedString text ++ " is not a valid integer."
  | .level text =>
    let names := ", ".intercalate (LogLevel.all.map fun level => Text.quotedString level.name)
    "Invalid value for '--log-level': " ++ Text.quotedString text ++ " is not one of " ++ names
      ++ "."

namespace CheckerRequest

/-- A switch as an entry of the configuration. -/
def switchSetting (value : Option Bool) : Setting := (value.map Setting.flag).getD .null

/-- A text as an entry of the configuration. -/
def textSetting (value : Option String) : Setting := (value.map Setting.text).getD .null

/-- The entries for the checker's section. -/
def entries (request : CheckerRequest) : Table :=
  [ (.text "enabled", switchSetting request.takesPart),
    (.text "binary", textSetting request.program),
    (.text "fast_exit", switchSetting request.stopsEarly) ]

end CheckerRequest

namespace RunRequest

/-- The number that is given. -/
def numberOf? (text : String) : Option Int :=
  match Text.readInteger text.toList with
  | .ok number => some number
  | .error _ => none

/-- Why the last value for an option is refused, if it is. -/
def valueError? (given : List (Given RunParameter)) (parameter : RunParameter) :
    Option ValueError :=
  match parameter, lastText? given parameter with
  | .prNumber, some text => if (numberOf? text).isNone then some (.number text) else none
  | .logLevel, some text => if (LogLevel.ofName? text).isNone then some (.level text) else none
  | _, _ => none

/-- What the options in an argument list ask of the run itself. -/
def optionsOf (given : List (Given RunParameter)) : RunOptions where
  logLevel := ((lastText? given .logLevel).bind LogLevel.ofName?).map LogLevel.name
  target := lastText? given .target
  source := lastText? given .source
  repoPath := lastText? given .repoPath
  repo := lastText? given .repo
  token := lastText? given .token
  eventName := lastText? given .eventName
  prNumber := (lastText? given .prNumber).bind numberOf?
  stepSummary := lastSwitch? given .stepSummary
  comment := lastSwitch? given .comment
  review := lastSwitch? given .review

/-- What options ask for. -/
def ofGiven (given : List (Given RunParameter)) : Except ValueError RunRequest :=
  match (given.map Given.target).findSome? (valueError? given) with
  | some cause => .error cause
  | none => .ok {
      options := optionsOf given
      analyzer :=
        ⟨lastSwitch? given .analyzer, lastText? given .analyzerProgram,
          lastSwitch? given .analyzerStops⟩
      formatter :=
        ⟨lastSwitch? given .formatter, lastText? given .formatterProgram,
          lastSwitch? given .formatterStops⟩ }

end RunRequest

end LintReview.CommandLine

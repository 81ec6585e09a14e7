import LintReview.CommandLine.Help
import LintReview.CommandLine.Request
import LintReview.Config
import LintReview.Context
import LintReview.Failure

/-!
# How a command ends

A command that is called wrongly ends with exit code 2 and says how it is called. A run that
ends early because of the server or of the repository's answer says so and ends with exit
code 1. Any other failure is handed on as it is.
-/

namespace LintReview.CommandLine

/-- How a command is called wrongly. -/
inductive Misuse where
  | argument (cause : ArgumentError)
  | value (cause : ValueError)
  | extraOperands (operands : List String)
  | noCommand
  | unknownCommand (name : String) (similar : List String)
  | context (cause : ContextError)
  deriving Repr, DecidableEq

namespace Misuse

/-- The names that may be meant. -/
def proposal : List String → String
  | [] => ""
  | [name] => " Did you mean " ++ Text.quotedString name ++ "?"
  | names => " (Possible options: " ++ ", ".intercalate (names.map Text.quotedString) ++ ")"

/-- The words for the misuse. -/
def message : Misuse → String
  | .argument (.unknownOption name similar) =>
    "No such option " ++ Text.quotedString name ++ "." ++ proposal similar
  | .argument (.needsValue name) =>
    "Option " ++ Text.quotedString name ++ " requires an argument."
  | .argument (.takesNoValue name) =>
    "Option " ++ Text.quotedString name ++ " does not take a value."
  | .value cause => cause.message
  | .extraOperands operands =>
    let plural := if operands.length = 1 then "" else "s"
    "Got unexpected extra argument" ++ plural ++ " (" ++ " ".intercalate operands ++ ")"
  | .noCommand => "Missing command."
  | .unknownCommand name similar =>
    "No such command " ++ Text.quotedString name ++ "." ++ proposal similar
  | .context cause => cause.message

/-- The form of the command is shown with the words. -/
def showsForm : Misuse → Bool
  | .argument (.needsValue _) | .argument (.takesNoValue _) => false
  | _ => true

end Misuse

/-- What is handed on as it is. -/
inductive Uncaught where
  | config (cause : Config.Error)
  | run (cause : Failure)

/-- How a command ends. -/
inductive Ending where
  | finished (exitCode : Int)
  /-- Without any argument the help takes the place of an error. -/
  | noArguments
  | misused (command : Command) (misuse : Misuse)
  /-- The server refused a call. -/
  | refused (refusal : Github.Refusal)
  /-- The repository gave no change from one revision to another. -/
  | noDifference (target source : String) (cause : Git.CommandError)
  | uncaught (cause : Uncaught)

namespace Ending

/-- The exit code of a command. -/
def exitCode : Ending → Int
  | .finished code => code
  | .noArguments | .misused _ _ => 2
  | .refused _ | .noDifference _ _ _ | .uncaught _ => 1

/-- A line that says what is wrong. -/
def errorLine (message : String) : String := "Error: " ++ message ++ "\n"

/-- What is written as an error. -/
def errorOutput : Ending → String
  | .finished _ | .uncaught _ => ""
  | .noArguments => Command.top.help
  | .misused command misuse =>
    let form :=
      if misuse.showsForm then
        command.usage ++ "\nTry '" ++ command.path ++ " --help' for help.\n\n"
      else ""
    form ++ errorLine misuse.message
  | .refused refusal => errorLine ("GitHub API request failed: " ++ refusal.message)
  | .noDifference target source cause =>
    errorLine ("Could not diff " ++ target ++ ".." ++ source ++ ": " ++ cause.message)

end Ending

end LintReview.CommandLine

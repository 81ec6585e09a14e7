import LintReview.CommandLine.Parameter
import LintReview.Console.Line

/-!
# Help

The help for a command gives its form, says what it does, and describes its options and the
commands that it has. Descriptions stand in a column of their own, to the right of the names;
a name too long for its column has a line to itself.
-/

namespace LintReview.CommandLine

/-- The number of cells in a line of help. -/
def helpWidth : Nat := 80

/-- The number of blanks in front of all but headings. -/
def helpIndent : Nat := 2

/-- The number of blanks between the columns. -/
def columnGap : Nat := 2

/-- The greatest width of the column of names. -/
def maxNameWidth : Nat := 30

/-- A line after a number of blanks. -/
def indented (count : Nat) (line : String) : String :=
  String.ofList (List.replicate count ' ') ++ line

/-- A text in lines of limited width. -/
def filled (limit : Nat) (text : String) : List String :=
  (Console.fill limit [] (Console.words text.toList)).map fun line =>
    String.ofList (Text.trimEnd line)

/-- A name with its description, the names in a column of the given width. -/
def definitionLines (nameWidth : Nat) (definition : String × String) : List String :=
  let (name, description) := definition
  let column := nameWidth + columnGap
  let lines := filled (helpWidth - helpIndent - column) description
  let below := lines.map (indented (helpIndent + column))
  match lines with
  | first :: _ =>
    if name.length ≤ nameWidth then
      let gap := indented (column - name.length) first
      indented helpIndent (name ++ gap) :: below.tail
    else indented helpIndent name :: below
  | [] => [indented helpIndent name]

/-- Names with their descriptions under a heading. -/
def definitionList (heading : String) (definitions : List (String × String)) : List String :=
  let widest := definitions.foldl (fun size (name, _) => max size name.length) 0
  heading :: definitions.flatMap (definitionLines (min widest maxNameWidth))

/-- A paragraph of a description. -/
inductive Paragraph where
  /-- The text is put in lines. -/
  | running (text : String)
  /-- The lines are given. -/
  | fixed (lines : List String)
  deriving Repr, DecidableEq

/-- A paragraph in lines. -/
def Paragraph.shown : Paragraph → List String
  | .running text => (filled (helpWidth - helpIndent) text).map (indented helpIndent)
  | .fixed lines => lines.map (indented helpIndent)

/-- The name of an option in the help. -/
def OptionSpec.label {α : Type} (spec : OptionSpec α) : String :=
  match spec.form with
  | .value placeholder => spec.name ++ " " ++ placeholder
  | .switch opposite => spec.name ++ " / " ++ opposite
  | .plain => spec.name

/-- An option with its description. -/
def OptionSpec.definition {α : Type} (spec : OptionSpec α) : String × String :=
  (spec.label, spec.help)

/-- A command of the program. -/
inductive Command where
  /-- The program itself. -/
  | top
  | run
  deriving Repr, DecidableEq

namespace Command

/-- The words that call the command. -/
def path : Command → String
  | .top => "lintlens"
  | .run => "lintlens run"

/-- The form of the command. -/
def form : Command → String
  | .top => "lintlens [OPTIONS] COMMAND [ARGS]..."
  | .run => "lintlens run [OPTIONS]"

/-- What the run does. -/
def runPurpose : String := "Lint the files changed between --target and the source revision."

/-- What the command does. -/
def description : Command → List Paragraph
  | .top => [.running "Run clang-format and clang-tidy on changed files and report to GitHub."]
  | .run =>
    [ .running runPurpose,
      .running <| " ".intercalate
        [ "In GitHub Actions (GITHUB_ACTIONS=true) the repository, source commit,",
          "event and pull request number are read from the environment. Locally",
          "they must be passed with --repo-path, --source and --event-name." ],
      .fixed
        [ "Exit status is 1 when clang-tidy fails on any file. clang-format",
          "failures are reported but do not change the exit status." ] ]

/-- The options of the command with their descriptions. -/
def options : Command → List (String × String)
  | .top => topGrammar.options.map OptionSpec.definition
  | .run => runGrammar.options.map OptionSpec.definition

/-- The commands that the command has. -/
def commands : Command → List (String × String)
  | .top => [("run", runPurpose)]
  | .run => []

/-- The line that gives the form of the command. -/
def usage (command : Command) : String := "Usage: " ++ command.form

/-- The help for the command. -/
def help (command : Command) : String :=
  let commands :=
    if command.commands.isEmpty then []
    else "" :: definitionList "Commands:" command.commands
  let lines :=
    command.usage :: (command.description.flatMap fun paragraph => "" :: paragraph.shown)
      ++ "" :: definitionList "Options:" command.options
      ++ commands
  "".intercalate (lines.map (· ++ "\n"))

end Command

end LintReview.CommandLine

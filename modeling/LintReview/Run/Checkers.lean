import LintReview.Config
import LintReview.Console.Message

/-!
# The checkers of a run

The configuration says which checkers take part in a run. The formatter comes first and the
analyzer second; each examines all changed files before the next one begins.
-/

namespace LintReview.Run

/-- The section of a configuration. -/
def sectionOf (config : Table) (name : String) : Except Failure Table :=
  match config.get? name with
  | none => .error .noSection
  | some (.table entries) => .ok entries
  | some _ => .error .sectionKind

/-- The checker of a section takes part unless the section says otherwise. -/
def isEnabled (options : Table) : Bool := ((options.get? "enabled").map Setting.isTruthy).getD true

/-- The checker of a section, if it takes part. -/
def checkerOf (config : Table) (name : String) (kind : CheckerKind) :
    Except Failure (List Checker) := do
  let options ← sectionOf config name
  return if isEnabled options then [.new kind options] else []

/-- The checkers that take part in a run. For a review the formatter is to give the formatted
    text. -/
def checkersOf (config : Table) (review : Bool) : Except Failure (List Checker) := do
  let formatters ← checkerOf config Config.formatterSection (.formatter review)
  let analyzers ← checkerOf config Config.analyzerSection .analyzer
  return formatters ++ analyzers

/-- Lets a checker examine files in a folder. -/
def examineWith (host : Host) (folder : String) (files : List String) (checker : Checker) :
    Session Checker := do
  Session.say (Console.Message.running checker files.length)
  let (examined, ending) ← checker.scan host folder files
  match ending with
  | .ok () => return examined
  | .error cause => throw cause

/-- Lets checkers examine files in a folder, one checker after the other. -/
def examine (host : Host) (folder : String) (files : List String) :
    List Checker → Session (List Checker)
  | [] => return []
  | checker :: rest => do
    let examined ← examineWith host folder files checker
    return examined :: (← examine host folder files rest)

end LintReview.Run

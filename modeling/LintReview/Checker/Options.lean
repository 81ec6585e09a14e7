import LintReview.Failure
import LintReview.Pattern.Read

/-!
# The options of a checker

A checker's section of the configuration says which program it runs, which files it
examines and when it stops. An option that is missing or empty has its usual value.
-/

namespace LintReview

/-- The value of an option that is given and not empty. -/
def Table.given? (options : Table) (name : String) : Option Setting :=
  (options.get? name).filter Setting.isTruthy

/-- The option is given and not empty. -/
def Table.holds (options : Table) (name : String) : Bool := (options.given? name).isSome

namespace Options

/-- The name of the program in words. -/
def programName (options : Table) (usual : String) : String :=
  ((options.given? "binary").map Setting.written).getD usual

/-- The program to be run. -/
def program (options : Table) (usual : String) : Except Failure String :=
  match options.given? "binary" with
  | none => .ok usual
  | some (.text name) => .ok name
  | some _ => .error .programKind

/-- The pattern that all files match. -/
def anyFile : String := ".*"

/-- The pattern of the files that are examined. -/
def sourcePattern (options : Table) : Except Failure Pattern.Node :=
  let text : Except Failure String :=
    match options.given? "source_iregex" with
    | none => .ok anyFile
    | some (.text pattern) => .ok pattern
    | some _ => .error .patternKind
  text.bind fun pattern => (Pattern.read pattern.toList).mapError .pattern

/-- The file is examined: the whole of its path matches the pattern. -/
def selects (options : Table) (file : String) : Except Failure Bool :=
  (sourcePattern options).map fun pattern => pattern.matchesAll file.toList

/-- The first file that fails is the last that is examined. -/
def stopsEarly (options : Table) : Bool := options.holds "fast_exit"

end Options

end LintReview

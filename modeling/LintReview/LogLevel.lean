import LintReview.Text.Casing

/-!
# Log levels

How much a run says of itself. A level is named in any mixture of cases. Its threshold is
the least weight of the messages that are shown.
-/

namespace LintReview

/-- How much a run says of itself. -/
inductive LogLevel where
  | trace
  | debug
  | info
  | error
  deriving Repr, DecidableEq

namespace LogLevel

/-- All levels. -/
def all : List LogLevel := [.trace, .debug, .info, .error]

/-- The name of a level. -/
def name : LogLevel → String
  | .trace => "trace"
  | .debug => "debug"
  | .info => "info"
  | .error => "error"

/-- The least weight of the messages that are shown. Traces weigh as much as debug
    messages. -/
def threshold : LogLevel → Nat
  | .trace | .debug => 10
  | .info => 20
  | .error => 40

/-- A name in lower case. -/
def plainName (text : String) : String := String.ofList (Text.lowerText text.toList)

/-- The level with a name. -/
def ofName? (text : String) : Option LogLevel :=
  all.find? fun level => level.name = plainName text

/-- The threshold for a name. Without a level of that name it is that of information. -/
def thresholdOf (text : String) : Nat := ((ofName? text).getD .info).threshold

end LogLevel

end LintReview

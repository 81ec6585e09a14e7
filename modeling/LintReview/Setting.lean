import LintReview.Calendar
import LintReview.Number.Shortest
import LintReview.Text.Quoted

/-!
# Settings

A configuration holds values of several kinds, in lists and tables. A table keeps its
entries in the order in which their keys first came, and its keys may be of any kind that
is no list and no table. Keys are the same if they have the same value, so an integer, a
decimal and a flag can be one key.
-/

namespace LintReview

/-- A value of a configuration. -/
inductive Setting where
  | null
  | flag (value : Bool)
  | integer (value : Int)
  | decimal (value : Number.Binary)
  | text (value : String)
  | date (day : Day)
  | moment (day : Day) (clock : Clock)
  | list (items : List Setting)
  | table (entries : List (Setting × Setting))

instance : Inhabited Setting := ⟨.null⟩

/-- The entries of a table, in order. -/
abbrev Table := List (Setting × Setting)

namespace Setting

/-- The value counts as given: it is neither null nor a zero, and not empty. -/
def isTruthy : Setting → Bool
  | null => false
  | flag value => value
  | integer value => value ≠ 0
  | decimal value => !value.isZero
  | text value => value ≠ ""
  | date _ | moment _ _ => true
  | list items => !items.isEmpty
  | table entries => !entries.isEmpty

/-- The integer that a flag counts as. -/
def flagValue (value : Bool) : Int := if value then 1 else 0

/-- Two settings are the same key. -/
def sameKey : Setting → Setting → Bool
  | null, null => true
  | text first, text second => first = second
  | date first, date second => first = second
  | moment first clock, moment second other => sameMoment first clock second other
  | decimal first, decimal second => first.sameValue second
  | decimal first, integer second => first.isInteger second
  | integer first, decimal second => second.isInteger first
  | decimal first, flag second => first.isInteger (flagValue second)
  | flag first, decimal second => second.isInteger (flagValue first)
  | integer first, integer second => first = second
  | integer first, flag second => first = flagValue second
  | flag first, integer second => flagValue first = second
  | flag first, flag second => first = second
  | _, _ => false

mutual

/-- The value as it is written inside a list or a table. -/
def inspect : Setting → String
  | null => "None"
  | flag value => if value then "True" else "False"
  | integer value => toString value
  | decimal value => value.written
  | text value => Text.quotedString value
  | date day => s!"datetime.date({day.year}, {day.month}, {day.day})"
  | moment day clock => day.inspectAt clock
  | list items => "[" ++ inspectItems items ++ "]"
  | table entries => "\x7b" ++ inspectEntries entries ++ "\x7d"

/-- The items of a list, with commas between them. -/
def inspectItems : List Setting → String
  | [] => ""
  | [item] => inspect item
  | item :: rest => inspect item ++ ", " ++ inspectItems rest

/-- The entries of a table, with commas between them. -/
def inspectEntries : List (Setting × Setting) → String
  | [] => ""
  | [(key, value)] => inspect key ++ ": " ++ inspect value
  | (key, value) :: rest => inspect key ++ ": " ++ inspect value ++ ", " ++ inspectEntries rest

end

/-- The value in words. -/
def written : Setting → String
  | text value => value
  | date day => day.written
  | moment day clock => s!"{day.written} {clock.written}"
  | other => other.inspect

end Setting

namespace Table

/-- The value of a key. -/
def find? (table : Table) (key : Setting) : Option Setting :=
  (List.find? (fun entry => entry.1.sameKey key) table).map Prod.snd

/-- The value of a key that is a text. -/
def get? (table : Table) (name : String) : Option Setting :=
  Table.find? table (.text name)

/-- The table with a value for a key. The key that came first stays, and so does its
    place. -/
def put (key value : Setting) : Table → Table
  | [] => [(key, value)]
  | (known, old) :: rest =>
    if known.sameKey key then (known, value) :: rest else (known, old) :: put key value rest

end Table

end LintReview

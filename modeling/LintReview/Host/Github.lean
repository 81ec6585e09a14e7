import LintReview.Setting

/-!
# The pull request on the server

The server keeps the comments on a pull request, in the order in which they were made. It
is asked by calls, each of which it may refuse.
-/

namespace LintReview.Github

/-- A comment on a pull request. -/
structure Comment where
  id : Int
  /-- The name of the author, if it is known. -/
  login : Option String
  deriving Repr, DecidableEq

/-- A comment on a line of a change. -/
structure InlineComment where
  path : String
  /-- The number of lines down from the first header of the file's change. -/
  position : Int
  body : String
  deriving Repr, DecidableEq

/-- What the server is asked. -/
inductive Call where
  | connect (token : String)
  | repository (name : String)
  | pull (number : Option Int)
  | listComments
  | createComment (body : String)
  | findComment (id : Int)
  | editComment (id : Int) (body : String)
  | createReview (body : String) (comments : List InlineComment)
  deriving Repr, DecidableEq

/-- How the server refuses a call. -/
structure Refusal where
  status : Int
  /-- What the server says about it. -/
  details : Option Setting

/-- Four hexadecimal digits after the mark of an escape. -/
def escapedUnit (unit : Nat) : List Char := '\\' :: 'u' :: Text.hexDigits 4 unit

/-- A character of a text in double quotes, in ASCII. A character beyond the first plane
    is written as two units. -/
def escapedCharacter (character : Char) : List Char :=
  let code := character.toNat
  match character with
  | '"' => ['\\', '"']
  | '\\' => ['\\', '\\']
  | '\n' => ['\\', 'n']
  | '\r' => ['\\', 'r']
  | '\t' => ['\\', 't']
  | '\x08' => ['\\', 'b']
  | '\x0c' => ['\\', 'f']
  | _ =>
    if 32 ≤ code && code < 127 then [character]
    else if code < 0x10000 then escapedUnit code
    else
      let rest := code - 0x10000
      escapedUnit (0xd800 + rest / 1024) ++ escapedUnit (0xdc00 + rest % 1024)

/-- A text in double quotes, in ASCII. -/
def quotedInAscii (text : String) : String :=
  "\"" ++ String.ofList (text.toList.flatMap escapedCharacter) ++ "\""

mutual

/-- What the server says, as it is sent. -/
def shown : Setting → String
  | .null => "null"
  | .flag value => if value then "true" else "false"
  | .text value => quotedInAscii value
  | .list items => "[" ++ shownItems items ++ "]"
  | .table entries => "\x7b" ++ shownEntries entries ++ "\x7d"
  | other => other.written

/-- The items of a list, with commas between them. -/
def shownItems : List Setting → String
  | [] => ""
  | [item] => shown item
  | item :: rest => shown item ++ ", " ++ shownItems rest

/-- The entries of a table, with commas between them. -/
def shownEntries : List (Setting × Setting) → String
  | [] => ""
  | [(key, value)] => quotedInAscii key.written ++ ": " ++ shown value
  | (key, value) :: rest =>
    quotedInAscii key.written ++ ": " ++ shown value ++ ", " ++ shownEntries rest

end

/-- The words for a refusal. -/
def Refusal.message (refusal : Refusal) : String :=
  match refusal.details with
  | none => toString refusal.status
  | some details => s!"{refusal.status} {shown details}"

end LintReview.Github

import LintReview.Diff.Hunk
import LintReview.Diff.Row
import LintReview.Text.Lines
import LintReview.Text.Numeral

/-!
# Reading a diff

A diff is read line by line into the sections of its files. `Phase` tells where the
reader stands: outside all files, in a file's header, among its hunks, or inside a hunk
with a number of old and new lines still to come. A hunk ends with the line that brings
both numbers to zero, so the text of a body line is never taken for a header.

Every line is consumed by one step, and a line that fits nowhere is an error with the
reason for it.
-/

namespace LintReview.Diff

/-- Why a text is not a diff. -/
inductive Error where
  /-- A body line exceeds a length of the hunk's header. -/
  | hunkTooLong
  /-- The text ends before the hunk does. -/
  | hunkTooShort
  /-- A line inside a hunk begins with none of the marks of a body line. -/
  | notABodyLine (line : List Char)
  /-- A hunk outside all files. -/
  | strayHunk (line : List Char)
  /-- A notice of a new file outside a file's header. -/
  | strayNewFile (line : List Char)
  /-- A notice of a deleted file outside a file's header. -/
  | strayDeletedFile (line : List Char)
  /-- A new name that no old name goes with. -/
  | unpairedTarget (line : List Char)
  /-- A marker outside all files. -/
  | strayMarker (line : List Char)
  /-- A marker before the first hunk. -/
  | markerBeforeHunk
  /-- A binary patch outside all files. -/
  | strayBinaryPatch (line : List Char)
  /-- A number of a hunk header is too long. -/
  | number (cause : Text.NumeralError)
  deriving Repr, DecidableEq

/-- The words for the error. -/
def Error.message : Error → String
  | .hunkTooLong => "Hunk is longer than expected"
  | .hunkTooShort => "Hunk is shorter than expected"
  | .notABodyLine line => "Hunk diff line expected: " ++ String.ofList line
  | .strayHunk line => "Unexpected hunk found: " ++ String.ofList line
  | .strayNewFile line => "Unexpected new file found: " ++ String.ofList line
  | .strayDeletedFile line => "Unexpected deleted file found: " ++ String.ofList line
  | .unpairedTarget line => "Target without source: " ++ String.ofList line
  | .strayMarker line => "Unexpected marker: " ++ String.ofList line
  | .markerBeforeHunk => "Unexpected marker: No newline at end of file"
  | .strayBinaryPatch line => "Unexpected binary patch marker: " ++ String.ofList line
  | .number cause => cause.message

/-- The name that stands for no file. -/
def noFile : List Char := "/dev/null".toList

/-- The part of a diff on one file: its names as written, and its hunks. -/
structure Section where
  source : List Char
  target : List Char
  hunks : List Hunk
  deriving Repr, DecidableEq

/-- The file did not exist before: it has no old name, or its only hunk starts at row
    zero of the old file with no line there. -/
def Section.isAdded (file : Section) : Bool :=
  file.source = noFile ||
    match file.hunks with
    | [hunk] => hunk.oldStart = 0 && hunk.oldLines = 0
    | _ => false

/-- The file no longer exists: it has no new name, or its only hunk starts at row zero of
    the new file with no line there. -/
def Section.isRemoved (file : Section) : Bool :=
  file.target = noFile ||
    match file.hunks with
    | [hunk] => hunk.newStart = 0 && hunk.newLines = 0
    | _ => false

/-- Where the reader stands. -/
inductive Phase where
  /-- Outside all files. -/
  | outside
  /-- In the header of a file. -/
  | header (file : Section)
  /-- Among the hunks of a file. -/
  | body (file : Section)
  /-- Inside a hunk, with so many old and new lines to come. -/
  | hunk (file : Section) (current : Hunk) (oldLeft newLeft : Nat)
  deriving Repr, DecidableEq

/-- The file that the reader is in. -/
def Phase.file? : Phase → Option Section
  | .outside => none
  | .header file => some file
  | .body file => some file
  | .hunk file _ _ _ => some file

/-- The state of the reader: the files that are complete, in order, the last old name
    that no file has taken, and where the reader stands. -/
structure Reader where
  complete : List Section
  source : Option (List Char)
  phase : Phase
  deriving Repr, DecidableEq

/-- The files so far, the current one included. -/
def Reader.files (reader : Reader) : List Section :=
  reader.complete ++ reader.phase.file?.toList

/-- The reader with its current file closed. -/
def Reader.close (reader : Reader) : Reader :=
  { reader with complete := reader.files, phase := .outside }

/-- A body line: its kind, or none for a marker, and its content. A line that begins with
    its end counts as a context line. -/
def bodyLine? (line : List Char) : Option (Option LineKind × List Char) :=
  match line with
  | '\n' :: _ | '\r' :: _ => some (some .context, [])
  | ' ' :: content => some (some .context, content)
  | '+' :: content => some (some .added, content)
  | '-' :: content => some (some .removed, content)
  | '\\' :: content => some (none, content)
  | _ => none

/-- Takes one from what is left, if the line takes a row on that side. -/
def takeRow (takes : Bool) (left : Nat) : Option Nat :=
  match takes, left with
  | false, _ => some left
  | true, 0 => none
  | true, remaining + 1 => some remaining

/-- The phase after a line of a hunk: complete if nothing is left on either side. -/
def Phase.afterLine (file : Section) (hunk : Hunk) : Nat → Nat → Phase
  | 0, 0 => .body { file with hunks := file.hunks ++ [hunk] }
  | oldLeft, newLeft => .hunk file hunk oldLeft newLeft

/-- One line inside a hunk. -/
def hunkStep (file : Section) (hunk : Hunk) (oldLeft newLeft : Nat) (line : List Char) :
    Except Error Phase :=
  match bodyLine? line with
  | none => .error (.notABodyLine line)
  | some (none, _) => .ok (Phase.afterLine file hunk oldLeft newLeft)
  | some (some kind, content) =>
    match takeRow kind.inOld oldLeft, takeRow kind.inNew newLeft with
    | some oldLeft, some newLeft =>
      .ok (Phase.afterLine file { hunk with body := hunk.body ++ [⟨kind, content⟩] } oldLeft
        newLeft)
    | _, _ => .error .hunkTooLong

/-- A number of a hunk header. -/
def headerNumber (digits : List Char) : Except Error Nat :=
  (Text.readDigits digits).mapError .number

/-- The hunk of a header, its body still empty. A length left out is one. -/
def openHunk (oldStart : List Char) (oldLines : Option (List Char)) (newStart : List Char)
    (newLines : Option (List Char)) (heading : List Char) : Except Error Hunk := do
  let oldStart ← headerNumber oldStart
  let oldLines ← (oldLines.map headerNumber).getD (.ok 1)
  let newStart ← headerNumber newStart
  let newLines ← (newLines.map headerNumber).getD (.ok 1)
  return { oldStart, oldLines, newStart, newLines, heading, body := [] }

/-- One line outside hunks, of the given sort. -/
def rowStep (reader : Reader) (line : List Char) : Row → Except Error Reader
  | .opening source target =>
    .ok { reader.close with phase := .header ⟨source, target, []⟩ }
  | .newFile =>
    match reader.phase with
    | .header file => .ok { reader with phase := .header { file with source := noFile } }
    | _ => .error (.strayNewFile line)
  | .deletedFile =>
    match reader.phase with
    | .header file => .ok { reader with phase := .header { file with target := noFile } }
    | _ => .error (.strayDeletedFile line)
  | .source name =>
    match reader.phase with
    | .body _ => .ok { reader.close with source := some name }
    | _ => .ok { reader with source := some name }
  | .target name =>
    match reader.phase.file?, reader.source with
    | some file, _ => if file.target = name then .ok reader else .error (.unpairedTarget line)
    | none, some source => .ok { reader with source := none, phase := .body ⟨source, name, []⟩ }
    | none, none => .error (.unpairedTarget line)
  | .hunk oldStart oldLines newStart newLines heading =>
    match reader.phase.file? with
    | none => .error (.strayHunk line)
    | some file => do
      let hunk ← openHunk oldStart oldLines newStart newLines heading
      return { reader with phase := .hunk file hunk hunk.oldLines hunk.newLines }
  | .unterminated =>
    match reader.phase.file? with
    | none => .error (.strayMarker line)
    | some file => if file.hunks.isEmpty then .error .markerBeforeHunk else .ok reader
  | .empty =>
    match reader.phase with
    | .body file => if file.hunks.isEmpty then .ok reader.close else .ok reader
    | _ => .ok reader
  | .binary source target =>
    match reader.phase with
    | .header _ => .ok reader.close
    | _ =>
      let closed := reader.close
      .ok { closed with complete := closed.complete ++ [⟨source, target, []⟩] }
  | .binaryPatch =>
    match reader.phase with
    | .header _ => .ok reader.close
    | _ => .error (.strayBinaryPatch line)
  | .other =>
    match reader.phase with
    | .body _ => .ok reader.close
    | _ => .ok reader

/-- One line. -/
def Reader.step (reader : Reader) (line : List Char) : Except Error Reader :=
  match reader.phase with
  | .hunk file hunk oldLeft newLeft => do
    return { reader with phase := ← hunkStep file hunk oldLeft newLeft line }
  | _ => rowStep reader line (Row.ofLine line)

/-- All lines. -/
def Reader.run : Reader → List (List Char) → Except Error Reader
  | reader, [] => .ok reader
  | reader, line :: rest => do
    let next ← reader.step line
    next.run rest

/-- Reading two lists of lines is reading one after the other. -/
theorem Reader.run_append (reader : Reader) (first second : List (List Char)) :
    reader.run (first ++ second) = (reader.run first).bind fun next => next.run second := by
  induction first generalizing reader with
  | nil => rfl
  | cons line rest inductionHypothesis =>
    simp only [List.cons_append, Reader.run]
    cases advanced : reader.step line with
    | error problem => rfl
    | ok next => exact inductionHypothesis next

/-- The files at the end of the text. A hunk still open must have nothing left to come. -/
def Reader.finish (reader : Reader) : Except Error (List Section) :=
  match reader.phase with
  | .hunk file hunk 0 0 => .ok (reader.complete ++ [{ file with hunks := file.hunks ++ [hunk] }])
  | .hunk _ _ _ _ => .error .hunkTooShort
  | _ => .ok reader.files

/-- The sections of a diff. -/
def sections (text : List Char) : Except Error (List Section) := do
  let reader ← Reader.run ⟨[], none, .outside⟩ (Text.terminated text)
  reader.finish

end LintReview.Diff

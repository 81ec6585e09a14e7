import LintReview.Diff.Document
import LintReview.Diff.Path
import LintReview.Entries

/-!
# Changed files

The patch of a file is what a change does to it: its path afterwards, the spans of its
hunks, and whether it was added, renamed or modified. A change is the list of its
patches in the order of the diff, one for each path. Deleted files have no patch.
-/

namespace LintReview.Diff

/-- What a change does to a file that exists afterwards. -/
inductive Status where
  | added
  | modified
  /-- The file had the given path before. -/
  | renamed (previous : String)
  deriving Repr, DecidableEq

/-- What a change does to one file. -/
structure Patch where
  /-- The path after the change. -/
  path : String
  spans : List Span
  status : Status
  deriving Repr, DecidableEq

/-- The path before the change, for a renamed file. -/
def Patch.previousPath? (patch : Patch) : Option String :=
  match patch.status with
  | .renamed previous => some previous
  | _ => none

/-- The patches of a change, by path. -/
abbrev Change := List (String × Patch)

/-- The patch of a path. -/
def Change.find? (change : Change) (path : String) : Option Patch :=
  List.lookup path change

/-- The change with a patch put in. An earlier patch of the path gives its place to the
    new one. -/
def Change.put (change : Change) (path : String) (patch : Patch) : Change :=
  putEntry path patch change

/-- Why a text gives no change. -/
inductive ChangeError where
  | malformed (cause : Error)
  | path (cause : Path.Error)
  deriving Repr, DecidableEq

/-- A path of a section, from the name as written. -/
def pathOf (name : List Char) : Except ChangeError String :=
  match Path.read name with
  | .ok path => .ok (String.ofList path)
  | .error cause => .error (.path cause)

/-- The patch of a section. -/
def Section.patch (file : Section) : Except ChangeError Patch := do
  let path ← pathOf file.target
  let spans := file.hunks.map Hunk.span
  if file.isAdded then return ⟨path, spans, .added⟩
  let previous ← pathOf file.source
  return ⟨path, spans, if previous = path then .modified else .renamed previous⟩

/-- Puts the patches of sections into a change, in order. -/
def Change.addSections : Change → List Section → Except ChangeError Change
  | change, [] => .ok change
  | change, file :: rest =>
    if file.isRemoved then change.addSections rest
    else do
      let patch ← file.patch
      Change.addSections (change.put patch.path patch) rest

/-- The change that a diff describes. -/
def Change.ofDiff (text : String) : Except ChangeError Change := do
  let files ← (sections text.toList).mapError .malformed
  Change.addSections [] files

end LintReview.Diff

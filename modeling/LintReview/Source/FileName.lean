import LintReview.Text.Lines

/-!
# Names of files in reports

A checker may report a file by an absolute path, with either kind of slash, while the
change names it relative to the repository. The two names mean one file if the relative
one is a tail of the other that starts at a component.
-/

namespace LintReview.Source

/-- A path with every backslash read as a slash. -/
def forwardSlashes (path : List Char) : List Char :=
  path.map fun character => if character = '\\' then '/' else character

/-- The components of a path. -/
def components (path : List Char) : List (List Char) :=
  Text.split '/' path

/-- The reported name means the given file of the repository. -/
def meansFile (reported file : List Char) : Bool :=
  let reported := forwardSlashes reported
  reported == file || ('/' :: file).isSuffixOf reported

end LintReview.Source

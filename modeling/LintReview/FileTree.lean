import LintReview.Entries
import LintReview.Text.Lines
import LintReview.Text.Quoted

/-!
# A tree of files

A working folder holds files, each under the components of its path; the folders between
are there because a file is. A path is walked component by component: `.` and an empty
component stay, `..` goes up. Nothing outside the working folder is known, so a path that
leads there finds nothing.
-/

namespace LintReview

/-- The files below a working folder, by the components of their paths. -/
structure FileTree where
  files : List (List String × List UInt8)
  deriving Repr, DecidableEq

/-- Why a path gives no file. -/
inductive FileError where
  /-- Nothing is there, or no folder to put it in. -/
  | missing (path : String)
  /-- The path leads to a folder. -/
  | folder (path : String)
  /-- The path goes on after a file. -/
  | throughFile (path : String)
  /-- The path holds a null character. -/
  | nullCharacter
  deriving Repr, DecidableEq

/-- The words for the error. -/
def FileError.message : FileError → String
  | .missing path => "[Errno 2] No such file or directory: " ++ Text.quotedString path
  | .folder path => "[Errno 21] Is a directory: " ++ Text.quotedString path
  | .throughFile path => "[Errno 20] Not a directory: " ++ Text.quotedString path
  | .nullCharacter => "embedded null byte"

/-- What a path leads to. -/
inductive Place where
  /-- Nothing, in a folder that is not there either. -/
  | nowhere
  /-- Nothing, in a folder that is there. -/
  | vacant (components : List String)
  /-- Something inside a file. -/
  | insideFile
  | folder
  | file (components : List String) (content : List UInt8)
  deriving Repr, DecidableEq

/-- The components of a path, the empty ones included. -/
def pathComponents (path : String) : List String :=
  (Text.split '/' path.toList).map String.ofList

/-- The component leaves the place as it is. -/
def isIdle (component : String) : Bool := component = "" || component = "."

/-- The path starts at the root of all folders. -/
def isAbsolutePath (path : String) : Bool := path.toList.head? = some '/'

/-- A path without idle components. An empty one is the working folder. -/
def plainPath (path : String) : String :=
  let kept := "/".intercalate ((pathComponents path).filter (!isIdle ·))
  if isAbsolutePath path then "/" ++ kept
  else if kept = "" then "." else kept

/-- The path of a name in a folder. -/
def pathIn (folder name : String) : String :=
  if isAbsolutePath name then plainPath name else plainPath (plainPath folder ++ "/" ++ name)

namespace FileTree

/-- The content of the file with the given components. -/
def content? (tree : FileTree) (components : List String) : Option (List UInt8) :=
  tree.files.lookup components

/-- Some file lies below the given components. -/
def hasFolder (tree : FileTree) (components : List String) : Bool :=
  tree.files.any fun entry => components.isPrefixOf entry.1 && components ≠ entry.1

/-- Walks on from a folder. -/
def walk (tree : FileTree) (folder : List String) : List String → Place
  | [] => .folder
  | component :: rest =>
    if isIdle component then walk tree folder rest
    else if component = ".." then
      if folder.isEmpty then .nowhere else walk tree folder.dropLast rest
    else
      let next := folder ++ [component]
      match tree.content? next with
      | some content => if rest.isEmpty then .file next content else .insideFile
      | none =>
        if tree.hasFolder next then walk tree next rest
        else if rest.isEmpty then .vacant next
        else .nowhere

/-- What a path leads to. -/
def look (tree : FileTree) (path : String) : Place :=
  if path = "" then .nowhere
  else if isAbsolutePath path then
    if (pathComponents path).all isIdle then .folder else .nowhere
  else tree.walk [] (pathComponents path)

/-- The content of the file that a path leads to. -/
def read (tree : FileTree) (path : String) : Except FileError (List UInt8) :=
  if path.toList.contains '\x00' then .error .nullCharacter
  else
    match tree.look path with
    | .file _ content => .ok content
    | .folder => .error (.folder path)
    | .insideFile => .error (.throughFile path)
    | .vacant _ | .nowhere => .error (.missing path)

/-- The tree after bytes are put at the end of a file, which is made if need be. -/
def append (tree : FileTree) (path : String) (bytes : List UInt8) : Except FileError FileTree :=
  if path.toList.contains '\x00' then .error .nullCharacter
  else
    match tree.look path with
    | .file components content => .ok ⟨putEntry components (content ++ bytes) tree.files⟩
    | .vacant components => .ok ⟨putEntry components bytes tree.files⟩
    | .folder => .error (.folder path)
    | .insideFile => .error (.throughFile path)
    | .nowhere => .error (.missing path)

end FileTree

end LintReview

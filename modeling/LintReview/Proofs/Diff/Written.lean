import LintReview.Diff.Patch

/-!
# Written changes

A change to a repository as its author knows it: files that were added, deleted, modified
or renamed, and in each of them blocks of lines. `FileChange.written` is the text that the
version control writes for a file, line by line: an opening line with both names, notices on
modes and names, the objects before and after, the two names again, and the blocks with
their headers. A block's header gives its length on both sides, and leaves out a length of
one. `entry?` is what a reader is to make of the file.

The text between two newlines is arbitrary everywhere except in names, so a line of a block
may read like any other line of the text.
-/

namespace LintReview.Diff.Written

/-- A text without a newline. -/
structure OneLine where
  characters : List Char
  single : '\n' ∉ characters := by decide

/-- A character that a name is written with as it is: no blank, no control character, no
    double quote and no backslash. -/
def isPlain (character : Char) : Bool :=
  character ≠ ' ' && character ≠ '"' && character ≠ '\\' &&
    32 ≤ character.toNat && character.toNat ≠ 127

/-- The path of a file, written without quotes. -/
structure Name where
  characters : List Char
  nonempty : characters ≠ [] := by decide
  plain : characters.all isPlain = true := by decide

/-- A line of a block. It may be the last of its file and end without a newline there. -/
structure BlockLine where
  kind : LineKind
  content : OneLine
  unterminated : Bool := false

/-- A block of lines, with the row where it starts in the old and in the new file. -/
structure Block where
  oldStart : Nat
  newStart : Nat
  heading : OneLine
  lines : List BlockLine
  nonempty : lines ≠ [] := by decide

/-- What a file is to the repository. -/
inductive Mode where
  | regular
  | executable
  | link
  | submodule

/-- The mode of a file before and after. -/
inductive ModeChange where
  | kept (mode : Mode)
  | changed (old new : Mode)

/-- What happens to a file. -/
inductive Kind where
  | added (mode : Mode)
  | deleted (mode : Mode)
  | modified (mode : ModeChange)
  | renamed (previous : Name) (similarity : Nat) (mode : ModeChange)

/-- The change to one file. A deleted file has the name that it had. -/
structure FileChange where
  name : Name
  kind : Kind
  oldObject : List (Fin 16)
  newObject : List (Fin 16)
  blocks : List Block
  nonempty : blocks ≠ [] := by decide

/-! ## Text -/

/-- The digits of a number. -/
def number (value : Nat) : List Char := Nat.toDigits 10 value

/-- The name of an object. -/
def hexadecimal (object : List (Fin 16)) : List Char :=
  object.map fun digit => Nat.digitChar digit.val

/-- The digits of a mode. -/
def Mode.written : Mode → List Char
  | .regular => "100644".toList
  | .executable => "100755".toList
  | .link => "120000".toList
  | .submodule => "160000".toList

/-- The mark in front of a line of a block. -/
def mark : LineKind → Char
  | .context => ' '
  | .added => '+'
  | .removed => '-'

/-- The line after a line that ends its file without a newline. -/
def marker : List Char := "\\ No newline at end of file".toList

/-- A line with its mark, and with the marker if its file ends there without a newline. -/
def BlockLine.written (line : BlockLine) : List (List Char) :=
  (mark line.kind :: line.content.characters) :: if line.unterminated then [marker] else []

namespace Block

/-- How many lines of the old file the block has. -/
def oldLines (block : Block) : Nat := block.lines.countP fun line => line.kind.inOld

/-- How many lines of the new file the block has. -/
def newLines (block : Block) : Nat := block.lines.countP fun line => line.kind.inNew

/-- A start and a length; a length of one is left out. -/
def extent (start length : Nat) : List Char :=
  number start ++ if length = 1 then [] else ',' :: number length

/-- The header with both extents; a heading stands behind a blank. -/
def header (block : Block) : List Char :=
  "@@ -".toList ++ (extent block.oldStart block.oldLines ++ (" +".toList ++
    (extent block.newStart block.newLines ++ (" @@".toList ++
      if block.heading.characters = [] then [] else ' ' :: block.heading.characters))))

/-- The header and the lines. -/
def written (block : Block) : List (List Char) :=
  block.header :: block.lines.flatMap BlockLine.written

end Block

/-- The notices on a mode: none if it is kept. -/
def ModeChange.notices : ModeChange → List (List Char)
  | .kept _ => []
  | .changed old new => ["old mode ".toList ++ old.written, "new mode ".toList ++ new.written]

/-- The mode behind the objects of a file that has kept it. -/
def ModeChange.afterObjects : ModeChange → List Char
  | .kept mode => ' ' :: mode.written
  | .changed _ _ => []

namespace Kind

/-- The notices on what happens to a file of the given name. -/
def notices (name : Name) : Kind → List (List Char)
  | added mode => ["new file mode ".toList ++ mode.written]
  | deleted mode => ["deleted file mode ".toList ++ mode.written]
  | modified mode => mode.notices
  | renamed previous similarity mode => mode.notices ++
      ["similarity index ".toList ++ number similarity ++ ['%'],
        "rename from ".toList ++ previous.characters, "rename to ".toList ++ name.characters]

/-- What stands behind the objects. -/
def afterObjects : Kind → List Char
  | modified mode => mode.afterObjects
  | renamed _ _ mode => mode.afterObjects
  | _ => []

end Kind

namespace FileChange

/-- The name on the old side. -/
def oldName (file : FileChange) : List Char :=
  'a' :: '/' :: match file.kind with
    | .renamed previous _ _ => previous.characters
    | _ => file.name.characters

/-- The name on the new side. -/
def newName (file : FileChange) : List Char := 'b' :: '/' :: file.name.characters

/-- The name of the file before the change: that of no file if it is added. -/
def source (file : FileChange) : List Char :=
  match file.kind with
  | .added _ => noFile
  | _ => file.oldName

/-- The name of the file after the change: that of no file if it is deleted. -/
def target (file : FileChange) : List Char :=
  match file.kind with
  | .deleted _ => noFile
  | _ => file.newName

/-- The line with both objects. -/
def objects (file : FileChange) : List Char :=
  "index ".toList ++ (hexadecimal file.oldObject ++ (['.', '.'] ++
    (hexadecimal file.newObject ++ file.kind.afterObjects)))

/-- The lines that are written for the file. -/
def written (file : FileChange) : List (List Char) :=
  ("diff --git ".toList ++ (file.oldName ++ ' ' :: file.newName)) ::
    (file.kind.notices file.name ++
      file.objects :: ("--- ".toList ++ file.source) :: ("+++ ".toList ++ file.target) ::
        file.blocks.flatMap Block.written)

end FileChange

/-- The text that is written for files: every line with a newline. -/
def text (files : List FileChange) : String :=
  String.ofList ((files.flatMap FileChange.written).flatMap fun line => line ++ ['\n'])

/-! ## Meaning -/

/-- The numbers of a block, with the header that has both lengths written out. -/
def Block.span (block : Block) : Span where
  header :=
    s!"@@ -{block.oldStart},{block.oldLines} +{block.newStart},{block.newLines} @@" ++
      if block.heading.characters.isEmpty then ""
      else " " ++ String.ofList block.heading.characters
  oldStart := block.oldStart
  oldLines := block.oldLines
  newStart := block.newStart
  newLines := block.newLines
  lineCount := block.lines.length

namespace FileChange

/-- The path of the file after the change. -/
def path (file : FileChange) : String := String.ofList file.name.characters

/-- What the change is to say of the file: nothing if the file is deleted. -/
def entry? (file : FileChange) : Option (String × Patch) :=
  match file.kind with
  | .added _ => some (file.path, ⟨file.path, file.blocks.map Block.span, .added⟩)
  | .deleted _ => none
  | .modified _ => some (file.path, ⟨file.path, file.blocks.map Block.span, .modified⟩)
  | .renamed previous _ _ => some (file.path,
      ⟨file.path, file.blocks.map Block.span, .renamed (String.ofList previous.characters)⟩)

/-- The file has one block, which has no line of the old file and starts at its row zero. -/
def FromNothing (file : FileChange) : Prop :=
  ∃ block, file.blocks = [block] ∧ block.oldStart = 0 ∧ block.oldLines = 0

/-- The file has one block, which has no line of the new file and starts at its row zero. -/
def ToNothing (file : FileChange) : Prop :=
  ∃ block, file.blocks = [block] ∧ block.newStart = 0 ∧ block.newLines = 0

end FileChange

/-- Every number of the block's header has as many digits as are read at most. -/
structure Block.Readable (block : Block) : Prop where
  oldStart : (number block.oldStart).length ≤ Text.maxDigits
  oldLines : (number block.oldLines).length ≤ Text.maxDigits
  newStart : (number block.newStart).length ≤ Text.maxDigits
  newLines : (number block.newLines).length ≤ Text.maxDigits

instance (block : Block) : Decidable block.Readable :=
  decidable_of_iff
    ((number block.oldStart).length ≤ Text.maxDigits ∧
      (number block.oldLines).length ≤ Text.maxDigits ∧
      (number block.newStart).length ≤ Text.maxDigits ∧
      (number block.newLines).length ≤ Text.maxDigits)
    ⟨fun ⟨oldStart, oldLines, newStart, newLines⟩ => ⟨oldStart, oldLines, newStart, newLines⟩,
      fun readable =>
        ⟨readable.oldStart, readable.oldLines, readable.newStart, readable.newLines⟩⟩

/-- A change to a file that its text tells apart from any other: the blocks of a file that
    exists before and after do not say otherwise, and a renamed file has two names. -/
structure FileChange.Distinct (file : FileChange) : Prop where
  added : ∀ mode, file.kind = .added mode → ¬ file.ToNothing
  modified : ∀ mode, file.kind = .modified mode → ¬ file.FromNothing ∧ ¬ file.ToNothing
  renamed : ∀ previous similarity mode, file.kind = .renamed previous similarity mode →
    ¬ file.FromNothing ∧ ¬ file.ToNothing ∧ previous.characters ≠ file.name.characters

end LintReview.Diff.Written

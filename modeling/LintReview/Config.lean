import LintReview.FileTree
import LintReview.Setting
import LintReview.Text.Utf8
import LintReview.Yaml.Value

/-!
# The configuration of a run

The configuration is a table with a section for each checker. It starts as the defaults;
the configuration file and then the options of the command line are laid over it. A
section is laid over entry by entry, any other entry is replaced whole, and a null leaves
everything as it is.
-/

namespace LintReview.Config

/-- Why there is no configuration. -/
inductive Error where
  /-- The file is a folder. -/
  | file (cause : FileError)
  /-- The file is no text. -/
  | encoding
  | document (cause : Yaml.Error)
  /-- The document is no table. -/
  | notATable
  /-- A section lies in a table that has no such section. -/
  | noSection
  /-- An entry is laid over a value that is no table. -/
  | noEntries
  deriving Repr, DecidableEq

/-- The name of the formatter's section. -/
def formatterSection : String := "clang_format"

/-- The name of the analyzer's section. -/
def analyzerSection : String := "clang_tidy"

/-- The pattern of the files that are checked unless the configuration gives another. -/
def sourcePattern : String :=
  ".*\\.(c|cc|cpp|cxx|c\\+\\+|h|hh|hpp|hxx|h\\+\\+|inl|ipp|tpp|m|mm|cu|cuh)"

/-- The configuration that a run starts from. -/
def defaults : Table :=
  [ (.text "bot_login", .text "github-actions[bot]"),
    (.text "batch_limit", .integer 60),
    (.text formatterSection, .table
      [ (.text "enabled", .flag true),
        (.text "binary", .text "clang-format"),
        (.text "fast_exit", .flag false),
        (.text "source_iregex", .text sourcePattern) ]),
    (.text analyzerSection, .table
      [ (.text "enabled", .flag true),
        (.text "binary", .text "clang-tidy"),
        (.text "fast_exit", .flag false),
        (.text "source_iregex", .text sourcePattern),
        (.text "checks", .text ""),
        (.text "config", .text ""),
        (.text "config_file", .text ""),
        (.text "database", .text ""),
        (.text "header_filter", .text ""),
        (.text "line_filter", .text ""),
        (.text "allow_no_checks", .flag false),
        (.text "enable_check_profile", .flag false) ]) ]

/-- The key names the section of a checker. -/
def isSection : Setting → Bool
  | .text name => name = formatterSection || name = analyzerSection
  | _ => false

/-- The section of a table. -/
def sectionOf (target key : Setting) : Except Error Setting :=
  match target with
  | .table entries =>
    match Table.find? entries key with
    | some found => .ok found
    | none => .error .noSection
  | _ => .error .noEntries

/-- The table with a value for a key. -/
def putInto (target key value : Setting) : Except Error Setting :=
  match target with
  | .table entries => .ok (.table (Table.put key value entries))
  | _ => .error .noEntries

/-- A value with entries laid over it, one after the other. -/
def overlay (target : Setting) : List (Setting × Setting) → Except Error Setting
  | [] => .ok target
  | (_, .null) :: rest => overlay target rest
  | (key, .table entries) :: rest =>
    if isSection key then do
      let known ← sectionOf target key
      let changed ← overlay known entries
      -- an empty section leaves even a value that is no table as it is
      let result ← putInto target key changed
      overlay result rest
    else do
      let result ← putInto target key (.table entries)
      overlay result rest
  | (key, value) :: rest => do
    let result ← putInto target key value
    overlay result rest

/-- The text of a file, with every line ended by a newline. -/
def fileText (content : List UInt8) : Except Error (List Char) :=
  match Text.decode? content with
  | some text => .ok (Text.unifyNewlines text)
  | none => .error .encoding

/-- The entries that a document gives. A document without content gives none. -/
def entriesOfDocument (document : Setting) : Except Error Table :=
  if !document.isTruthy then .ok []
  else
    match document with
    | .table entries => .ok entries
    | _ => .error .notATable

/-- The entries of the configuration file. A file that is not there has none. -/
def fileEntries (tree : FileTree) (path : String) : Except Error Table :=
  match tree.read (plainPath path) with
  | .error (.folder shown) => .error (.file (.folder shown))
  | .error _ => .ok []
  | .ok content => do
    let text ← fileText content
    let document ← (Yaml.read text).mapError .document
    entriesOfDocument document

/-- The configuration with the entries of the file and of the command line. -/
def layered (file overrides : Table) : Except Error Table := do
  match ← overlay (← overlay (.table defaults) file) overrides with
  | .table entries => return entries
  | _ => .error .noEntries

/-- The configuration of a run in a working folder. -/
def load (tree : FileTree) (path : String) (overrides : Table) : Except Error Table := do
  layered (← fileEntries tree path) overrides

end LintReview.Config

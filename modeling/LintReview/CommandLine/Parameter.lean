import LintReview.CommandLine.Arguments
import LintReview.LogLevel

/-!
# The options of the commands

The program itself takes the path of the configuration file. Its command takes what a run
needs to know: the revisions, where the results are posted, and which checkers take part.
-/

namespace LintReview.CommandLine

/-- What the options in front of a command set. -/
inductive TopParameter where
  | version
  | config
  | help
  deriving Repr, DecidableEq

/-- What the options of the command set. -/
inductive RunParameter where
  | logLevel
  | target
  | source
  | repoPath
  | repo
  | token
  | eventName
  | prNumber
  | stepSummary
  | comment
  | review
  | analyzer
  | formatter
  | analyzerProgram
  | formatterProgram
  | analyzerStops
  | formatterStops
  | help
  deriving Repr, DecidableEq

/-- The path of the configuration file unless another is given. -/
def usualConfigPath : String := ".lintlens.yml"

/-- The placeholder for a text. -/
def textForm : Form := .value "TEXT"

/-- The placeholder for a level of the log. -/
def levelForm : Form := .value ("[" ++ "|".intercalate (LogLevel.all.map LogLevel.name) ++ "]")

/-- The option that asks for help. -/
def helpOption {α : Type} (target : α) : OptionSpec α :=
  ⟨target, "--help", .plain, "Show this message and exit."⟩

/-- The options in front of a command. -/
def topGrammar : Grammar TopParameter where
  options :=
    [ ⟨.version, "--version", .plain, "Show the version and exit."⟩,
      ⟨.config, "--config", textForm,
        s!"Path to the configuration file.  [default: {usualConfigPath}]"⟩,
      helpOption .help ]
  isMixed := false

/-- The options that say what is examined and where it is posted. -/
def contextOptions : List (OptionSpec RunParameter) :=
  [ ⟨.logLevel, "--log-level", levelForm, "Log verbosity. Defaults to info."⟩,
    ⟨.target, "--target", textForm, "Target (base) reference or commit to diff against."⟩,
    ⟨.source, "--source", textForm, "Source reference or commit. Local runs only."⟩,
    ⟨.repoPath, "--repo-path", textForm, "Path to the git repository. Local runs only."⟩,
    ⟨.repo, "--repo", textForm, "GitHub repository in owner/name format. Local runs only."⟩,
    ⟨.token, "--token", textForm, "GitHub token. Falls back to GITHUB_TOKEN, then the gh CLI."⟩,
    ⟨.eventName, "--event-name", textForm,
      "GitHub event name, e.g. pull_request. Local runs only."⟩,
    ⟨.prNumber, "--pr-number", .value "INTEGER", "Pull request number. Local runs only."⟩,
    ⟨.stepSummary, "--enable-step-summary", .switch "--disable-step-summary",
      "Write the result to the GitHub Actions step summary. On by default in CI."⟩,
    ⟨.comment, "--enable-comment-on-issue", .switch "--disable-comment-on-issue",
      "Create or update the lintlens comment on the pull request."⟩,
    ⟨.review, "--enable-pull-request-review", .switch "--disable-pull-request-review",
      "Post diagnostics as inline pull request review comments."⟩ ]

/-- The options that say which checkers take part and how. -/
def checkerOptions : List (OptionSpec RunParameter) :=
  [ ⟨.analyzer, "--clang-tidy", .switch "--no-clang-tidy", "Enable clang-tidy."⟩,
    ⟨.formatter, "--clang-format", .switch "--no-clang-format", "Enable clang-format."⟩,
    ⟨.analyzerProgram, "--clang-tidy-binary", textForm, "clang-tidy executable."⟩,
    ⟨.formatterProgram, "--clang-format-binary", textForm, "clang-format executable."⟩,
    ⟨.analyzerStops, "--clang-tidy-fast-exit", .switch "--no-clang-tidy-fast-exit",
      "Stop running clang-tidy at the first failing file."⟩,
    ⟨.formatterStops, "--clang-format-fast-exit", .switch "--no-clang-format-fast-exit",
      "Stop running clang-format at the first failing file."⟩ ]

/-- The options of the command. -/
def runGrammar : Grammar RunParameter where
  options := contextOptions ++ checkerOptions ++ [helpOption .help]
  isMixed := true

end LintReview.CommandLine

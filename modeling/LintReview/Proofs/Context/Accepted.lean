import LintReview.Context

/-!
# Which options make a context

Options are checked one rule after the other, and the first rule that is broken refuses them.
Taken together the rules say which options are accepted (`Context.Accepted`): a few hold
everywhere, and the others depend on where the run takes place.

What a context says of the repository and of the revision comes from the environment on the
server, and from the options elsewhere. So neither can be overruled by the other.
-/

namespace LintReview

/-! ## References of pull requests -/

/-- The digits at the start of a text are all that come before the first other character. -/
theorem Text.digitsThen?_eq_some_iff {text digits rest : List Char} :
    Text.digitsThen? text = some (digits, rest) ↔
      text = digits ++ rest ∧ digits ≠ [] ∧ (∀ digit ∈ digits, Text.isDigit digit = true) ∧
        ∀ next, rest.head? = some next → Text.isDigit next = false := by
  unfold Text.digitsThen?
  constructor
  · intro taken
    dsimp only at taken
    split at taken
    · cases taken
    · next nonempty =>
      obtain ⟨rfl, rfl⟩ := Prod.mk.inj (Option.some.inj taken)
      refine ⟨List.takeWhile_append_dropWhile.symm, by simpa using nonempty,
        List.all_eq_true.mp List.all_takeWhile, ?_⟩
      intro next starts
      simpa [starts] using List.head?_dropWhile_not Text.isDigit text
  · rintro ⟨rfl, nonempty, decimal, ends⟩
    have taken : rest.takeWhile Text.isDigit = [] := by
      cases rest with
      | nil => rfl
      | cons next others => simp [ends next rfl]
    have left : rest.dropWhile Text.isDigit = rest := by
      cases rest with
      | nil => rfl
      | cons next others => simp [ends next rfl]
    have kept : (digits ++ rest).takeWhile Text.isDigit = digits := by
      rw [List.takeWhile_append_of_pos decimal, taken, List.append_nil]
    have dropped : (digits ++ rest).dropWhile Text.isDigit = rest := by
      rw [List.dropWhile_append_of_pos decimal, left]
    simp [kept, dropped, nonempty]

/-- The reference is that of the merge of a pull request: digits of any script, no more than
    are read, between two fixed words. One newline may follow. -/
def PullRequest.RefersTo (reference : String) (number : Nat) : Prop :=
  ∃ digits ending,
    reference.toList = "refs/pull/".toList ++ (digits ++ ("/merge".toList ++ ending)) ∧
    digits ≠ [] ∧ (∀ digit ∈ digits, Text.isDigit digit = true) ∧
    digits.length ≤ Text.maxDigits ∧ (ending = [] ∨ ending = ['\n']) ∧
    number = Text.digitsValue digits

/-- The digits of a reference are those between the two words. -/
theorem PullRequest.refDigits?_eq_some_iff {reference digits : List Char} :
    refDigits? reference = some digits ↔ ∃ ending,
      reference = "refs/pull/".toList ++ (digits ++ ("/merge".toList ++ ending)) ∧
      digits ≠ [] ∧ (∀ digit ∈ digits, Text.isDigit digit = true) ∧
      (ending = [] ∨ ending = ['\n']) := by
  have slash : Text.isDigit '/' = false := by decide
  simp only [refDigits?, Option.bind_eq_bind, Option.bind_eq_some_iff, Prod.exists,
    Text.after?_eq_some_iff, Text.digitsThen?_eq_some_iff]
  constructor
  · rintro ⟨_, rfl, found, _, ⟨rfl, nonempty, decimal, -⟩, ending, rfl, accepted⟩
    split at accepted
    · next closes =>
      obtain rfl := Option.some.inj accepted
      exact ⟨ending, rfl, nonempty, decimal, by simpa using closes⟩
    · cases accepted
  · rintro ⟨ending, rfl, nonempty, decimal, closes⟩
    have ends : ∀ next, ("/merge".toList ++ ending).head? = some next →
        Text.isDigit next = false := by
      intro next starts
      obtain rfl : '/' = next := Option.some.inj starts
      exact slash
    refine ⟨_, rfl, digits, _, ⟨rfl, nonempty, decimal, ends⟩, ending, rfl, ?_⟩
    rw [if_pos (by simpa using closes)]

/-- The number of a reference is read exactly if the reference is one. -/
theorem PullRequest.numberOfRef_eq_ok_iff {reference : String} {number : Nat} :
    numberOfRef (some reference) = .ok number ↔ RefersTo reference number := by
  unfold numberOfRef RefersTo
  rw [Option.getD_some]
  constructor
  · intro read
    split at read
    · next digits found =>
      obtain ⟨ending, split, nonempty, decimal, closes⟩ := refDigits?_eq_some_iff.mp found
      unfold Text.readDigits at read
      split at read
      · cases read
      · next short =>
        exact ⟨digits, ending, split, nonempty, decimal, Nat.le_of_not_lt short, closes,
          (Except.ok.inj read).symm⟩
    · cases read
  · rintro ⟨digits, ending, split, nonempty, decimal, short, closes, rfl⟩
    rw [refDigits?_eq_some_iff.mpr ⟨ending, split, nonempty, decimal, closes⟩]
    dsimp only
    rw [Text.readDigits, if_neg (Nat.not_lt_of_le short)]
    rfl

/-! ## The rules -/

/-- The options ask for a comment or for a review. -/
def RunOptions.Posts (options : RunOptions) : Prop :=
  options.comment = some true ∨ options.review = some true

namespace Context

/-- What holds of the options of a run on the server. -/
structure ServerRules (options : RunOptions) (environment : Environment) : Prop where
  /-- Nothing is given that the environment says already. -/
  ungiven : options.repoPath = none ∧ options.repo = none ∧ options.source = none ∧
    options.eventName = none ∧ options.prNumber = none
  /-- A pull request has a number. -/
  number : environment.eventName ∈ pullEvents →
    ∃ number, PullRequest.RefersTo environment.ref number
  /-- Only a pull request can be posted on. -/
  posting : options.Posts → environment.eventName ∈ pullEvents
  /-- There is a file for the step summary, unless it is turned off. -/
  summary : options.stepSummary ≠ some false → environment.stepSummary ≠ ""

/-- What holds of the options of a run elsewhere. -/
structure LocalRules (options : RunOptions) : Prop where
  repoPath : options.repoPath.isSome = true
  source : options.source.isSome = true
  event : ∃ event ∈ events, options.eventName = some event
  /-- There is no step summary away from the server. -/
  noSummary : options.stepSummary = none
  /-- Only a pull request has a number. -/
  number : options.prNumber.isSome = true →
    ∃ event ∈ pullEvents, options.eventName = some event
  posting : options.Posts → options.token.isSome = true ∧ options.repo.isSome = true ∧
    options.prNumber.isSome = true

/-- What holds of the options of a run. -/
structure Accepted (options : RunOptions) (environment : Environment) : Prop where
  /-- The level of the log is named in any mixture of cases, if at all. -/
  level : ∀ name, options.logLevel = some name →
    name = "" ∨ LogLevel.plainName name ∈ LogLevel.all.map LogLevel.name
  target : options.target.isSome = true
  onServer : environment.onServer = true → ServerRules options environment
  locally : environment.onServer = false → LocalRules options

/-- What a context takes from the environment. -/
structure TakenFrom (environment : Environment) (context : Context) : Prop where
  source : context.source = environment.sha
  repoPath : context.repoPath = environment.workspace
  eventName : context.eventName = environment.eventName
  repo : context.repo = environment.repository
  prNumber : ∀ number, context.prNumber = some number ↔ environment.eventName ∈ pullEvents ∧
    ∃ value : Nat, PullRequest.RefersTo environment.ref value ∧ number = value
  stepSummaryPath : context.stepSummaryPath = environment.stepSummary
  outputPath : context.outputPath = environment.output

/-- The context that options make on the server, where the run is for the given pull
    request. -/
def served (options : RunOptions) (environment : Environment) (level : LogLevel)
    (number : Option Int) : Context where
  isLocal := false
  logLevel := level
  target := options.target.getD ""
  source := environment.sha
  repoPath := environment.workspace
  eventName := environment.eventName
  repo := environment.repository
  token := orElse options.token environment.token
  prNumber := number
  stepSummary := options.stepSummary.getD true
  comment := options.comment.getD false
  review := options.review.getD false
  stepSummaryPath := environment.stepSummary
  outputPath := environment.output

/-- The context that options make elsewhere. -/
def unserved (options : RunOptions) (level : LogLevel) : Context where
  isLocal := true
  logLevel := level
  target := options.target.getD ""
  source := options.source.getD ""
  repoPath := options.repoPath.getD ""
  eventName := options.eventName.getD ""
  repo := orElse options.repo ""
  token := orElse options.token ""
  prNumber := options.prNumber
  comment := options.comment.getD false
  review := options.review.getD false

/-! ## One rule after the other -/

section Rules

variable {options : RunOptions} {environment : Environment} {context : Context}
  {level : LogLevel}

/-- One step after the other succeeds if both do. -/
theorem bind_eq_ok_iff {α β : Type} {first : Except ContextError α}
    {next : α → Except ContextError β} {result : β} :
    (first >>= next) = .ok result ↔ ∃ value, first = .ok value ∧ next value = .ok result := by
  cases first with
  | error cause =>
    constructor
    · rintro ⟨⟩
    · rintro ⟨_, ⟨⟩, _⟩
  | ok value =>
    constructor
    · intro ended
      exact ⟨value, rfl, ended⟩
    · rintro ⟨_, ⟨⟩, ended⟩
      exact ended

/-- What is at hand is the result. -/
theorem pure_eq_ok_iff {α : Type} {value result : α} :
    (pure value : Except ContextError α) = .ok result ↔ result = value := by
  constructor
  · rintro ⟨⟩
    rfl
  · rintro rfl
    rfl

/-- A check, and then a step that needs nothing of it. -/
theorem checking_eq_ok_iff {β : Type} {first : Except ContextError Unit}
    {next : Except ContextError β} {result : β} :
    (first >>= fun _ => next) = .ok result ↔ first = .ok () ∧ next = .ok result := by
  rw [bind_eq_ok_iff]
  constructor
  · rintro ⟨_, passed, ended⟩
    exact ⟨passed, ended⟩
  · rintro ⟨passed, ended⟩
    exact ⟨(), passed, ended⟩

/-- A check that is made only under a condition. -/
theorem asking_eq_ok_iff {β : Type} {asked : Prop} [Decidable asked]
    {first : Except ContextError Unit} {next : Except ContextError β} {result : β} :
    (if asked then (first >>= fun _ => next) else next) = .ok result ↔
      (asked → first = .ok ()) ∧ next = .ok result := by
  by_cases met : asked
  · rw [if_pos met, checking_eq_ok_iff, forall_prop_of_true met]
  · rw [if_neg met, forall_prop_of_false met, true_and]

/-- A refusal under a condition. What would follow the refusal does not matter. -/
theorem refusing_eq_ok_iff {α β : Type} {refused : Prop} [Decidable refused]
    {cause : ContextError} {next : Except ContextError β} {others : α → Except ContextError β}
    {result : β} :
    (if refused then (throw cause >>= others) else next) = .ok result ↔
      ¬ refused ∧ next = .ok result := by
  by_cases met : refused
  · rw [if_pos met]
    constructor
    · rintro ⟨⟩
    · intro both
      exact absurd met both.1
  · rw [if_neg met, and_iff_right met]

theorem mustGive_eq_ok_iff {circumstance : Circumstance} {needed : List RunOption} :
    mustGive circumstance options needed = .ok () ↔
      ∀ option ∈ needed, options.gives option = true := by
  induction needed with
  | nil => simp [mustGive]
  | cons option rest inductionHypothesis =>
    rw [mustGive, List.forall_mem_cons]
    by_cases given : options.gives option = true
    · rw [if_pos given, inductionHypothesis, and_iff_right given]
    · rw [if_neg given]
      constructor
      · rintro ⟨⟩
      · intro both
        exact absurd both.1 given

theorem mustNotGive_eq_ok_iff {circumstance : Circumstance} {refused : List RunOption} :
    mustNotGive circumstance options refused = .ok () ↔
      ∀ option ∈ refused, options.gives option = false := by
  induction refused with
  | nil => simp [mustNotGive]
  | cons option rest inductionHypothesis =>
    rw [mustNotGive, List.forall_mem_cons]
    cases options.gives option with
    | false => rw [if_neg Bool.false_ne_true, inductionHypothesis, and_iff_right rfl]
    | true =>
      rw [if_pos rfl]
      constructor
      · rintro ⟨⟩
      · rintro ⟨⟨⟩, _⟩

/-- A name is that of a level if it is one of the four in lower case. -/
theorem exists_ofName?_iff {name : String} :
    (∃ level, LogLevel.ofName? name = some level) ↔
      LogLevel.plainName name ∈ LogLevel.all.map LogLevel.name := by
  rw [← Option.isSome_iff_exists, LogLevel.ofName?, List.find?_isSome, List.mem_map]
  simp

theorem exists_logLevelOf_iff {name : Option String} :
    (∃ level, logLevelOf name = .ok level) ↔ ∀ text, name = some text →
      text = "" ∨ LogLevel.plainName text ∈ LogLevel.all.map LogLevel.name := by
  cases name with
  | none =>
    constructor
    · rintro _ _ ⟨⟩
    · intro _
      exact ⟨.info, rfl⟩
  | some text =>
    by_cases empty : text = ""
    · subst empty
      constructor
      · intro _ _ same
        exact .inl (Option.some.inj same).symm
      · intro _
        exact ⟨.info, rfl⟩
    · have given : (some text).filter (fun name => decide (name ≠ "")) = some text := by
        simp [empty]
      rw [logLevelOf, given]
      simp only [Option.some.injEq, forall_eq', empty, false_or, ← exists_ofName?_iff]
      cases LogLevel.ofName? text with
      | none => simp
      | some level => simp

/-- A switch that is off unless it is turned on. -/
theorem getD_false_iff {switch : Option Bool} : switch.getD false = true ↔ switch = some true := by
  cases switch <;> simp

/-- A switch that is on unless it is turned off. -/
theorem getD_true_iff {switch : Option Bool} : switch.getD true = true ↔ switch ≠ some false := by
  cases switch <;> simp

theorem posts_iff : posts options = true ↔ options.Posts := by
  rw [posts, Bool.or_eq_true, getD_false_iff, getD_false_iff, RunOptions.Posts]

theorem served_posts_iff {number : Option Int} :
    (served options environment level number).comment = true ∨
      (served options environment level number).review = true ↔ options.Posts :=
  or_congr getD_false_iff getD_false_iff

theorem unserved_posts_iff :
    (unserved options level).comment = true ∨ (unserved options level).review = true ↔
      options.Posts :=
  or_congr getD_false_iff getD_false_iff

theorem numberOnServer_eq_ok_iff {number : Option Int} :
    numberOnServer environment = .ok number ↔
      if environment.eventName ∈ pullEvents then
        ∃ value : Nat, PullRequest.RefersTo environment.ref value ∧ number = some (value : Int)
      else number = none := by
  unfold numberOnServer
  split
  · simp only [← PullRequest.numberOfRef_eq_ok_iff]
    cases PullRequest.numberOfRef (some environment.ref) with
    | error cause => simp
    | ok value => simp [eq_comm]
  · simp [eq_comm]

/-- There is a number on the server exactly for a pull request. -/
theorem numbered_iff {number : Option Int} (known : numberOnServer environment = .ok number) :
    number.isSome = true ↔ environment.eventName ∈ pullEvents := by
  rw [numberOnServer_eq_ok_iff] at known
  split at known
  · next pull =>
    obtain ⟨value, -, rfl⟩ := known
    exact iff_of_true rfl pull
  · next other =>
    subst known
    exact iff_of_false Bool.false_ne_true other

/-- A context passes the last check if it can post where it is to post. -/
theorem checked_eq_ok_iff {result : Context} :
    checked context = .ok result ↔ result = context ∧
      (context.comment = true ∨ context.review = true → context.prNumber.isSome = true) ∧
      (context.stepSummary = true → context.stepSummaryPath ≠ "") := by
  unfold checked
  cases comment : context.comment <;> cases review : context.review <;>
    cases number : context.prNumber <;> cases summary : context.stepSummary <;>
    by_cases path : context.stepSummaryPath = "" <;> simp [path, eq_comm]

/-- A context is made on the server if nothing is given twice and the pull request has its
    number. -/
theorem onServer_eq_ok_iff :
    onServer options environment level = .ok context ↔
      (options.repoPath = none ∧ options.repo = none ∧ options.source = none ∧
        options.eventName = none ∧ options.prNumber = none) ∧
      ∃ number, numberOnServer environment = .ok number ∧
        context = served options environment level number := by
  have ungiven : (∀ option ∈ [RunOption.repoPath, .repo, .source, .eventName, .prNumber],
      options.gives option = false) ↔ options.repoPath = none ∧ options.repo = none ∧
        options.source = none ∧ options.eventName = none ∧ options.prNumber = none := by
    simp [RunOptions.gives]
  unfold onServer
  rw [checking_eq_ok_iff, mustNotGive_eq_ok_iff, bind_eq_ok_iff, ungiven]
  simp only [pure_eq_ok_iff, served]

/-- A context is made elsewhere if what it needs is given and fits together. -/
theorem locally_eq_ok_iff :
    locally options level = .ok context ↔
      (options.repoPath.isSome = true ∧ options.source.isSome = true ∧
        options.eventName.isSome = true) ∧
      options.stepSummary = none ∧
      options.eventName.getD "" ∈ events ∧
      (options.Posts → options.token.isSome = true ∧ options.repo.isSome = true) ∧
      (options.prNumber.isSome = true → options.eventName.getD "" ∈ pullEvents) ∧
      context = unserved options level := by
  have given : (∀ option ∈ [RunOption.repoPath, .source, .eventName],
      options.gives option = true) ↔ options.repoPath.isSome = true ∧
        options.source.isSome = true ∧ options.eventName.isSome = true := by
    simp [RunOptions.gives]
  have ungiven : (∀ option ∈ [RunOption.stepSummary], options.gives option = false) ↔
      options.stepSummary = none := by
    simp [RunOptions.gives]
  have named : (∀ option ∈ [RunOption.token, .repo], options.gives option = true) ↔
      options.token.isSome = true ∧ options.repo.isSome = true := by
    simp [RunOptions.gives]
  unfold locally
  simp only [checking_eq_ok_iff, refusing_eq_ok_iff, asking_eq_ok_iff, pure_eq_ok_iff,
    mustGive_eq_ok_iff, mustNotGive_eq_ok_iff, posts_iff, given, ungiven, named,
    Decidable.not_not, Bool.and_eq_true, decide_eq_true_eq, not_and, unserved]

/-- A context is made on the server exactly from options that keep the rules there. -/
theorem server_eq_ok_iff :
    (onServer options environment level >>= checked) = .ok context ↔
      ServerRules options environment ∧ ∃ number, numberOnServer environment = .ok number ∧
        context = served options environment level number := by
  simp only [bind_eq_ok_iff, onServer_eq_ok_iff]
  constructor
  · rintro ⟨_, ⟨ungiven, number, known, rfl⟩, passed⟩
    obtain ⟨rfl, posting, summary⟩ := checked_eq_ok_iff.mp passed
    refine ⟨⟨ungiven, ?_, ?_, ?_⟩, number, known, rfl⟩
    · intro pull
      rw [numberOnServer_eq_ok_iff, if_pos pull] at known
      obtain ⟨value, refers, -⟩ := known
      exact ⟨value, refers⟩
    · intro posts
      rw [← numbered_iff known]
      exact posting (served_posts_iff.mpr posts)
    · intro wanted
      exact summary (getD_true_iff.mpr wanted)
  · rintro ⟨rules, number, known, rfl⟩
    refine ⟨_, ⟨rules.ungiven, number, known, rfl⟩, checked_eq_ok_iff.mpr ⟨rfl, ?_, ?_⟩⟩
    · intro posts
      exact (numbered_iff known).mpr (rules.posting (served_posts_iff.mp posts))
    · intro wanted
      exact rules.summary (getD_true_iff.mp wanted)

/-- The name of an event that is given is one of some names. -/
theorem exists_event_iff {names : List String} (given : options.eventName.isSome = true) :
    (∃ event ∈ names, options.eventName = some event) ↔ options.eventName.getD "" ∈ names := by
  obtain ⟨event, named⟩ := Option.isSome_iff_exists.mp given
  simp [named]

/-- A context is made elsewhere exactly from options that keep the rules there. -/
theorem elsewhere_eq_ok_iff :
    (locally options level >>= checked) = .ok context ↔
      LocalRules options ∧ context = unserved options level := by
  simp only [bind_eq_ok_iff, locally_eq_ok_iff]
  constructor
  · rintro ⟨_, ⟨⟨folder, source, event⟩, noSummary, known, named, numbered, rfl⟩, passed⟩
    obtain ⟨rfl, posting, -⟩ := checked_eq_ok_iff.mp passed
    refine ⟨⟨folder, source, (exists_event_iff event).mpr known, noSummary, ?_, ?_⟩, rfl⟩
    · intro number
      exact (exists_event_iff event).mpr (numbered number)
    · intro posts
      obtain ⟨token, repo⟩ := named posts
      exact ⟨token, repo, posting (unserved_posts_iff.mpr posts)⟩
  · rintro ⟨rules, rfl⟩
    have event : options.eventName.isSome = true := by
      obtain ⟨name, -, given⟩ := rules.event
      rw [given, Option.isSome_some]
    refine ⟨_, ⟨⟨rules.repoPath, rules.source, event⟩, rules.noSummary,
      (exists_event_iff event).mp rules.event, ?_, ?_, rfl⟩,
      checked_eq_ok_iff.mpr ⟨rfl, ?_, ?_⟩⟩
    · intro posts
      exact ⟨(rules.posting posts).1, (rules.posting posts).2.1⟩
    · intro number
      exact (exists_event_iff event).mp (rules.number number)
    · intro posts
      exact (rules.posting (unserved_posts_iff.mp posts)).2.2
    · rintro ⟨⟩

/-- The rules on the server give the pull request its number. -/
theorem exists_numberOnServer (rules : ServerRules options environment) :
    ∃ number, numberOnServer environment = .ok number := by
  simp only [numberOnServer_eq_ok_iff]
  by_cases pull : environment.eventName ∈ pullEvents
  · obtain ⟨number, refers⟩ := rules.number pull
    exact ⟨some (number : Int), by rw [if_pos pull]; exact ⟨number, refers, rfl⟩⟩
  · exact ⟨none, by rw [if_neg pull]⟩

/-- The contexts that are made, and from which options. -/
theorem build_eq_ok_iff :
    build options environment = .ok context ↔ Accepted options environment ∧
      ∃ level, logLevelOf options.logLevel = .ok level ∧
        if environment.onServer then ∃ number, numberOnServer environment = .ok number ∧
          context = served options environment level number
        else context = unserved options level := by
  have target : (∀ option ∈ [RunOption.target], options.gives option = true) ↔
      options.target.isSome = true := by
    simp [RunOptions.gives]
  unfold build
  cases place : environment.onServer with
  | false =>
    rw [bind_eq_ok_iff]
    simp only [checking_eq_ok_iff, mustGive_eq_ok_iff, target, Bool.false_eq_true, if_false,
      elsewhere_eq_ok_iff]
    constructor
    · rintro ⟨level, named, given, rules, same⟩
      have known := exists_logLevelOf_iff.mp ⟨level, named⟩
      exact ⟨⟨known, given, by simp [place], fun _ => rules⟩, level, named, same⟩
    · rintro ⟨accepted, level, named, same⟩
      exact ⟨level, named, accepted.target, accepted.locally place, same⟩
  | true =>
    rw [bind_eq_ok_iff]
    simp only [checking_eq_ok_iff, mustGive_eq_ok_iff, target, if_true, server_eq_ok_iff]
    constructor
    · rintro ⟨level, named, given, rules, made⟩
      have known := exists_logLevelOf_iff.mp ⟨level, named⟩
      exact ⟨⟨known, given, fun _ => rules, by simp [place]⟩, level, named, made⟩
    · rintro ⟨accepted, level, named, made⟩
      exact ⟨level, named, accepted.target, accepted.onServer place, made⟩

/-- The number on the server is the one that the reference gives, and no other. -/
theorem takenFrom_served {number : Option Int}
    (known : numberOnServer environment = .ok number) :
    TakenFrom environment (served options environment level number) := by
  refine ⟨rfl, rfl, rfl, rfl, ?_, rfl, rfl⟩
  intro other
  rw [numberOnServer_eq_ok_iff] at known
  split at known
  · next pull =>
    obtain ⟨value, refers, rfl⟩ := known
    constructor
    · intro same
      exact ⟨pull, value, refers, (Option.some.inj same).symm⟩
    · rintro ⟨-, found, refersToo, rfl⟩
      rw [← PullRequest.numberOfRef_eq_ok_iff] at refers refersToo
      obtain rfl : value = found := Except.ok.inj (refers.symm.trans refersToo)
      rfl
  · next elsewhere =>
    subst known
    constructor
    · rintro ⟨⟩
    · intro both
      exact absurd both.1 elsewhere

end Rules

/-- Options and environment make a context exactly if all rules are kept, and are refused
    otherwise. A context on the server takes from the environment what it says of the
    repository, of the revision and of the files to be written. A context elsewhere is the
    same in every other environment. -/
theorem context_of_options (options : RunOptions) (environment : Environment) :
    ((∃ context, build options environment = .ok context) ↔ Accepted options environment) ∧
    (¬ Accepted options environment → ∃ cause, build options environment = .error cause) ∧
    ∀ context, build options environment = .ok context →
      (environment.onServer = true → TakenFrom environment context) ∧
      (environment.onServer = false → ∀ other : Environment, other.onServer = false →
        build options other = .ok context) := by
  have accepts : (∃ context, build options environment = .ok context) ↔
      Accepted options environment := by
    constructor
    · rintro ⟨context, made⟩
      exact (build_eq_ok_iff.mp made).1
    · intro accepted
      obtain ⟨level, named⟩ := exists_logLevelOf_iff.mpr accepted.level
      cases place : environment.onServer with
      | false =>
        exact ⟨unserved options level,
          build_eq_ok_iff.mpr ⟨accepted, level, named, by simp [place]⟩⟩
      | true =>
        obtain ⟨number, known⟩ := exists_numberOnServer (accepted.onServer place)
        exact ⟨served options environment level number,
          build_eq_ok_iff.mpr ⟨accepted, level, named, by simp [place, known]⟩⟩
  refine ⟨accepts, ?_, ?_⟩
  · intro refused
    cases made : build options environment with
    | error cause => exact ⟨cause, rfl⟩
    | ok context => exact absurd (accepts.mp ⟨context, made⟩) refused
  · intro context made
    obtain ⟨accepted, level, named, same⟩ := build_eq_ok_iff.mp made
    constructor
    · intro place
      rw [if_pos place] at same
      obtain ⟨number, known, rfl⟩ := same
      exact takenFrom_served known
    · intro place other elsewhere
      rw [place, if_neg Bool.false_ne_true] at same
      have acceptedToo : Accepted options other :=
        ⟨accepted.level, accepted.target, by simp [elsewhere], fun _ => accepted.locally place⟩
      exact build_eq_ok_iff.mpr ⟨acceptedToo, level, named, by simp [elsewhere, same]⟩

/-- A run for a pull request on the server. -/
def pullEnvironment : Environment := Environment.ofVariables
  [("GITHUB_ACTIONS", "true"), ("GITHUB_EVENT_NAME", "pull_request"),
    ("GITHUB_REF", "refs/pull/42/merge"), ("GITHUB_REPOSITORY", "owner/repo"),
    ("GITHUB_SHA", "abc"), ("GITHUB_STEP_SUMMARY", "summary")]

/-- A run on the server after a push. -/
def pushEnvironment : Environment := Environment.ofVariables
  [("GITHUB_ACTIONS", "true"), ("GITHUB_EVENT_NAME", "push"), ("GITHUB_STEP_SUMMARY", "summary")]

/-- Options that ask for a comment. -/
def commentOptions : RunOptions where
  logLevel := some "DEBUG"
  target := some "main"
  comment := some true

/-- Options that ask for a review of a pull request away from the server. -/
def reviewOptions : RunOptions where
  target := some "main"
  source := some "topic"
  repoPath := some "."
  repo := some "owner/repo"
  token := some "secret"
  eventName := some "pull_request_target"
  prNumber := some 3
  review := some true

/-- A comment can be asked for on the server if there is a pull request, and not after a push.
    A review elsewhere does not depend on the environment. -/
theorem context_of_options_posting :
    (pullEnvironment.onServer = true ∧
      build commentOptions pullEnvironment =
        .ok (served commentOptions pullEnvironment .debug (some 42)) ∧
      TakenFrom pullEnvironment (served commentOptions pullEnvironment .debug (some 42))) ∧
    (¬ Accepted commentOptions pushEnvironment ∧
      ∃ cause, build commentOptions pushEnvironment = .error cause) ∧
    ((Environment.ofVariables []).onServer = false ∧
      (Environment.ofVariables [("GITHUB_REF", "refs/pull/7/merge")]).onServer = false ∧
      build reviewOptions (Environment.ofVariables []) = .ok (unserved reviewOptions .info) ∧
      build reviewOptions (Environment.ofVariables [("GITHUB_REF", "refs/pull/7/merge")]) =
        .ok (unserved reviewOptions .info)) := by
  have served : build commentOptions pullEnvironment =
      .ok (served commentOptions pullEnvironment .debug (some 42)) := by rfl
  have refused : ¬ Accepted commentOptions pushEnvironment := by
    intro accepted
    have pull := (accepted.onServer rfl).posting (.inl rfl)
    revert pull
    decide
  have unserved : build reviewOptions (Environment.ofVariables []) =
      .ok (unserved reviewOptions .info) := by rfl
  refine ⟨⟨by decide, served, ?_⟩, ⟨refused, ?_⟩, by decide, by decide, unserved, ?_⟩
  · exact ((context_of_options commentOptions pullEnvironment).2.2 _ served).1 (by decide)
  · exact (context_of_options commentOptions pushEnvironment).2.1 refused
  · exact ((context_of_options reviewOptions _).2.2 _ unserved).2 (by decide) _ (by decide)

end Context

end LintReview

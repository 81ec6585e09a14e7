import LintReview.Proofs.CommandLine.Requests
import LintReview.Proofs.Console.Passages
import LintReview.Proofs.Context.Accepted
import LintReview.Proofs.Run.Allowed

/-!
# A command is checked before anything is done

A command that asks for a run reads its configuration, looks for a token if it is to post and
has none, makes the context of the run, and only then runs. So when the options make no
context, nothing has been done to the world, apart from one launch that asks for a token, where
a token is looked for at all (`ValidatesFirst.rejected`). How the command ends is how its run
ended, and a command that is to post nothing leaves the server alone from beginning to end.
-/

namespace LintReview

/-- What a session of the server's program answers when it is asked for its token. -/
def Token.ofOutcome : Outcome → Except Failure (Option String)
  | .failed .missing | .failed .timedOut => .ok none
  | .failed cause => .error (.launch cause request)
  | .finished exitCode output errorOutput => ofOutput exitCode output errorOutput

/-- The effect asks nothing of the server, and no session for its token. -/
def Effect.KeepsFromServer : Effect → Prop
  | .github _ => False
  | .launch request => request.words ≠ ["gh", "auth", "token"]
  | .openRepository _ | .difference _ _ | .append _ _ => True

/-- From one world to another the server was asked nothing, and no session for its token. -/
def World.KeepsFromServer (world final : World) : Prop :=
  ∃ done, final.effects = world.effects ++ done ∧ ∀ effect ∈ done, effect.KeepsFromServer

namespace CommandLine

instance (options : RunOptions) : Decidable options.Posts :=
  inferInstanceAs (Decidable (_ ∨ _))

/-- What a request lays over the configuration file. -/
def RunRequest.overrides (request : RunRequest) : Table :=
  [ (.text Config.analyzerSection, .table request.analyzer.entries),
    (.text Config.formatterSection, .table request.formatter.entries) ]

/-! ## The token -/

/-- A token is looked for: the run is to post, and no token is given. -/
def LooksForToken (options : RunOptions) : Prop := options.Posts ∧ options.token = none

instance (options : RunOptions) : Decidable (LooksForToken options) :=
  inferInstanceAs (Decidable (_ ∧ _))

/-- The token that the environment gives, empty if the variable is not set. -/
def givenToken (bindings : List (String × String)) : String :=
  Environment.valueOf bindings "GITHUB_TOKEN"

/-- The effects of looking for a token: a session is asked if the environment gives none. -/
def tokenEffects (bindings : List (String × String)) (options : RunOptions) : List Effect :=
  if LooksForToken options ∧ givenToken bindings = "" then [.launch Token.request] else []

/-- The token with which the context is made, after the given effects. -/
def tokenFor (host : Host) (bindings : List (String × String)) (options : RunOptions)
    (before : List Effect) : Except Failure (Option String) :=
  if LooksForToken options then
    if givenToken bindings = "" then Token.ofOutcome (host.outcome before Token.request)
    else .ok (some (givenToken bindings))
  else .ok options.token

/-- The world after a token was looked for, where nothing else has changed. -/
def afterToken (bindings : List (String × String)) (options : RunOptions) (world : World) :
    World :=
  { world with effects := world.effects ++ tokenEffects bindings options }

/-! ## The parts of a command -/

section Parts

variable {α : Type} {session : Session α} {world final : World}

/-- A session as a part of a command ends as it does, with its failure named. -/
theorem Step.ofSession_run {outcome : Except Failure α} (onFailure : Failure → Ending)
    (ran : session.run.run world = (outcome, final)) :
    (Step.ofSession onFailure session).run.run world = (outcome.mapError onFailure, final) := by
  have lifted : (liftM session.run : Step (Except Failure α)).run.run world =
      (.ok outcome, final) := by
    change (Except.ok <$> session.run).run world = _
    rw [StateT.run_map, ran]
    rfl
  refine (Session.run_bind_ok lifted).trans ?_
  cases outcome <;> rfl

/-- The configuration is read and nothing else happens. -/
theorem configFor_run (path : String) (request : RunRequest) (world : World) :
    (configFor path request).run.run world =
      ((Config.load world.files path request.overrides).mapError fun cause =>
        .uncaught (.config cause), world) := by
  have found : (get : Step World).run.run world = (.ok world, world) := rfl
  rw [configFor, Session.run_bind_ok found]
  unfold RunRequest.overrides
  cases Config.load world.files path _ <;> rfl

/-- The token of the environment is taken if there is one, and otherwise that of a session. -/
theorem resolve_run (host : Host) (given : String) (world : World) :
    (Token.resolve host (some given)).run.run world =
      if given = "" then
        (Token.ofOutcome (host.outcome world.effects Token.request),
          world.record (.launch Token.request))
      else (.ok (some given), world) := by
  by_cases empty : given = ""
  · subst empty
    rw [if_pos rfl]
    have launched : (Session.launch host Token.request).run.run world =
        (.ok (host.outcome world.effects Token.request),
          world.record (.launch Token.request)) := rfl
    refine (Session.run_bind_ok launched).trans ?_
    unfold Token.ofOutcome
    cases host.outcome world.effects Token.request with
    | finished exitCode output errorOutput => rfl
    | failed cause => cases cause <;> rfl
  · have kept : (some given).filter (fun token => decide (token ≠ "")) = some given := by
      simp [empty]
    rw [if_neg empty, Token.resolve, kept]
    rfl

/-- Nothing happens before the context is made, but that a token is looked for. -/
theorem withToken_run (host : Host) (bindings : List (String × String)) (options : RunOptions)
    (world : World) :
    (withToken host (.ofVariables bindings) options).run.run world =
      (match tokenFor host bindings options world.effects with
        | .ok token => .ok { options with token := token }
        | .error cause => .error (.uncaught (.run cause)),
        afterToken bindings options world) := by
  have asked : (options.token.isNone && Context.posts options) = true ↔ LooksForToken options := by
    rw [Bool.and_eq_true, Context.posts_iff, Option.isNone_iff_eq_none, and_comm, LooksForToken]
  unfold withToken tokenFor afterToken tokenEffects
  by_cases looks : LooksForToken options
  · have resolved := resolve_run host (givenToken bindings) world
    rw [if_pos (asked.mpr looks), if_pos looks]
    by_cases empty : givenToken bindings = ""
    · rw [if_pos empty] at resolved
      rw [if_pos empty, if_pos ⟨looks, empty⟩]
      have found := Step.ofSession_run (.uncaught ∘ .run) resolved
      cases answered : Token.ofOutcome (host.outcome world.effects Token.request) with
      | ok token =>
        rw [answered] at found
        exact (Session.run_bind_ok found).trans rfl
      | error cause =>
        rw [answered] at found
        exact Session.run_bind_error found
    · rw [if_neg empty] at resolved
      rw [if_neg empty, if_neg (mt And.right empty), List.append_nil]
      have found := Step.ofSession_run (.uncaught ∘ .run) resolved
      exact (Session.run_bind_ok found).trans rfl
  · rw [if_neg (mt asked.mp looks), if_neg looks, if_neg (mt And.left looks), List.append_nil]
    rfl

/-- The last line of a run can be printed. -/
theorem isSome_verdict (passed : Bool) :
    (Console.printed? (verdict passed).toList).isSome = true := by
  have isStyleName_red : Console.IsStyleName "red".toList :=
    ⟨⟨'r', _, rfl, rfl⟩, by decide, by decide, rfl⟩
  cases passed with
  | true =>
    exact Console.isSome_printed?_passage Console.Message.isStyleName_green
      (List.forall_mem_nil _) (by decide : Console.IsPlain "lintlens: all checks passed.".toList)
      (List.forall_mem_nil _)
  | false =>
    exact Console.isSome_printed?_passage isStyleName_red (List.forall_mem_nil _)
      (by decide : Console.IsPlain "lintlens: clang-tidy reported failures.".toList)
      (List.forall_mem_nil _)

end Parts

section Perform

variable {host : Host} {bindings : List (String × String)} {path : String}
  {request : RunRequest} {config : Table} {token : Option String} {context : Context}
  {world after : World}

/-- A command without a configuration has done nothing. -/
theorem perform_unconfigured {cause : Config.Error}
    (refused : Config.load world.files path request.overrides = .error cause) :
    (perform host bindings path request).run.run world =
      (.error (.uncaught (.config cause)), world) := by
  have read := configFor_run path request world
  rw [refused] at read
  exact Session.run_bind_error read

/-- A command that finds no answer to its question for a token has done nothing else. -/
theorem perform_unresolved {cause : Failure}
    (loaded : Config.load world.files path request.overrides = .ok config)
    (unresolved : tokenFor host bindings request.options world.effects = .error cause) :
    (perform host bindings path request).run.run world =
      (.error (.uncaught (.run cause)), afterToken bindings request.options world) := by
  have read := configFor_run path request world
  have looked := withToken_run host bindings request.options world
  rw [loaded] at read
  rw [unresolved] at looked
  exact (Session.run_bind_ok read).trans (Session.run_bind_error looked)

/-- With a configuration and a token, or none, the context of the run is made. -/
theorem perform_resolved
    (loaded : Config.load world.files path request.overrides = .ok config)
    (resolved : tokenFor host bindings request.options world.effects = .ok token) :
    (perform host bindings path request).run.run world =
      (do
        let context ← contextFor { request.options with token := token } (.ofVariables bindings)
        let run ← Step.ofSession (endingOf context) (Run.start host context config none false)
        Step.ofSession (.uncaught ∘ .run) (Session.say (verdict run.passed))
        return .finished run.exitCode : Step Ending).run.run
          (afterToken bindings request.options world) := by
  have read := configFor_run path request world
  have looked := withToken_run host bindings request.options world
  rw [loaded] at read
  rw [resolved] at looked
  exact (Session.run_bind_ok read).trans (Session.run_bind_ok looked)

/-- A command whose options make no context has done nothing more. -/
theorem perform_rejected {cause : ContextError}
    (loaded : Config.load world.files path request.overrides = .ok config)
    (resolved : tokenFor host bindings request.options world.effects = .ok token)
    (rejected : Context.build { request.options with token := token } (.ofVariables bindings) =
      .error cause) :
    (perform host bindings path request).run.run world =
      (.error (.misused .run (.context cause)), afterToken bindings request.options world) := by
  rw [perform_resolved loaded resolved, contextFor, rejected]
  rfl

/-- With a context the run is begun. -/
theorem perform_accepted
    (loaded : Config.load world.files path request.overrides = .ok config)
    (resolved : tokenFor host bindings request.options world.effects = .ok token)
    (accepted : Context.build { request.options with token := token } (.ofVariables bindings) =
      .ok context) :
    (perform host bindings path request).run.run world =
      (do
        let run ← Step.ofSession (endingOf context) (Run.start host context config none false)
        Step.ofSession (.uncaught ∘ .run) (Session.say (verdict run.passed))
        return .finished run.exitCode : Step Ending).run.run
          (afterToken bindings request.options world) := by
  have made : (pure context : Step Context).run.run (afterToken bindings request.options world) =
      (.ok context, afterToken bindings request.options world) := rfl
  rw [perform_resolved loaded resolved, contextFor, accepted]
  exact Session.run_bind_ok made

/-- A command whose run fails ends with it. -/
theorem perform_failed {cause : Failure}
    (loaded : Config.load world.files path request.overrides = .ok config)
    (resolved : tokenFor host bindings request.options world.effects = .ok token)
    (accepted : Context.build { request.options with token := token } (.ofVariables bindings) =
      .ok context)
    (ran : (Run.start host context config none false).run.run
      (afterToken bindings request.options world) = (.error cause, after)) :
    (perform host bindings path request).run.run world =
      (.error (endingOf context cause), after) := by
  rw [perform_accepted loaded resolved accepted]
  exact Session.run_bind_error (Step.ofSession_run _ ran)

/-- A command whose run comes to its end prints how, and nothing else. -/
theorem perform_finished {run : Run}
    (loaded : Config.load world.files path request.overrides = .ok config)
    (resolved : tokenFor host bindings request.options world.effects = .ok token)
    (accepted : Context.build { request.options with token := token } (.ofVariables bindings) =
      .ok context)
    (ran : (Run.start host context config none false).run.run
      (afterToken bindings request.options world) = (.ok run, after)) :
    ∃ shown, (perform host bindings path request).run.run world =
      (.ok (.finished run.exitCode), { after with console := shown }) := by
  obtain ⟨shown, said⟩ := Session.say_run (isSome_verdict run.passed) after
  refine ⟨shown, ?_⟩
  rw [perform_accepted loaded resolved accepted]
  refine (Session.run_bind_ok (Step.ofSession_run _ ran)).trans ?_
  exact (Session.run_bind_ok (Step.ofSession_run _ said)).trans rfl

end Perform

/-! ## Commands that are to post nothing -/

section Unposted

variable {host : Host} {bindings : List (String × String)} {options : RunOptions}
  {path : String} {request : RunRequest} {context : Context} {world final : World}

/-- A context posts only if its options do. -/
theorem posts_of_build {environment : Environment}
    (accepted : Context.build options environment = .ok context)
    (posts : context.comment = true ∨ context.review = true) : options.Posts := by
  obtain ⟨-, level, -, made⟩ := Context.build_eq_ok_iff.mp accepted
  split at made
  · obtain ⟨number, -, rfl⟩ := made
    exact Context.served_posts_iff.mp posts
  · subst made
    exact Context.unserved_posts_iff.mp posts

/-- Without an effect there is none on the server. -/
theorem keepsFromServer_of_effects_eq (same : final.effects = world.effects) :
    world.KeepsFromServer final :=
  ⟨[], by rw [same, List.append_nil], List.forall_mem_nil _⟩

/-- A run that is to post nothing keeps away from the server. -/
theorem keepsFromServer_of_start {config : Table} {outcome : Except Failure Run}
    (silent : ¬ (context.comment = true ∨ context.review = true))
    (ran : (Run.start host context config none false).run.run world = (outcome, final)) :
    world.KeepsFromServer final := by
  obtain ⟨done, same, allowed⟩ := Run.start_allowed (by rintro _ ⟨⟩) ran
  refine ⟨done, same, ?_⟩
  intro effect member
  cases allowed effect member with
  | asking call posts => exact absurd posts silent
  | checking checks => exact checks.words_ne
  | opening => trivial
  | comparing => trivial
  | summing text wanted => trivial
  | saving text served => trivial

/-- Where nothing is to be posted, no token is looked for. -/
theorem afterToken_of_not_posts (bindings : List (String × String)) (world : World)
    (silent : ¬ options.Posts) : afterToken bindings options world = world := by
  have idle : ¬ (LooksForToken options ∧ givenToken bindings = "") := fun asked =>
    silent asked.1.1
  rw [afterToken, tokenEffects, if_neg idle, List.append_nil]

/-- A command that is to post nothing keeps away from the server. -/
theorem perform_keepsFromServer {outcome : Except Ending Ending}
    (silent : ¬ request.options.Posts)
    (ran : (perform host bindings path request).run.run world = (outcome, final)) :
    world.KeepsFromServer final := by
  have idle := afterToken_of_not_posts bindings world silent
  cases loaded : Config.load world.files path request.overrides with
  | error cause =>
    rw [perform_unconfigured loaded] at ran
    obtain ⟨-, rfl⟩ := Prod.mk.inj ran
    exact keepsFromServer_of_effects_eq rfl
  | ok config =>
    cases resolved : tokenFor host bindings request.options world.effects with
    | error cause =>
      rw [perform_unresolved loaded resolved, idle] at ran
      obtain ⟨-, rfl⟩ := Prod.mk.inj ran
      exact keepsFromServer_of_effects_eq rfl
    | ok token =>
      cases accepted : Context.build { request.options with token := token }
          (.ofVariables bindings) with
      | error cause =>
        rw [perform_rejected loaded resolved accepted, idle] at ran
        obtain ⟨-, rfl⟩ := Prod.mk.inj ran
        exact keepsFromServer_of_effects_eq rfl
      | ok context =>
        have unposted : ¬ (context.comment = true ∨ context.review = true) := by
          intro posts
          -- the token makes no difference to what is posted
          have asked : ({ request.options with token := token } : RunOptions).Posts :=
            posts_of_build accepted posts
          exact silent asked
        rcases started : (Run.start host context config none false).run.run
          (afterToken bindings request.options world) with ⟨ended, after⟩
        have kept := keepsFromServer_of_start unposted started
        rw [idle] at kept
        cases ended with
        | error cause =>
          rw [perform_failed loaded resolved accepted started] at ran
          obtain ⟨-, rfl⟩ := Prod.mk.inj ran
          exact kept
        | ok run =>
          obtain ⟨shown, finished⟩ := perform_finished loaded resolved accepted started
          rw [finished] at ran
          obtain ⟨-, rfl⟩ := Prod.mk.inj ran
          exact kept

end Unposted

/-! ## The command as a whole -/

/-- How a command with a configuration goes from one world to another and ends: its options
    are checked before anything else is done. -/
structure ValidatesFirst (host : Host) (bindings : List (String × String))
    (options : RunOptions) (config : Table) (world : World) (ending : Ending) (final : World) :
    Prop where
  /-- If the options make no context, the command was called wrongly, and nothing was done but
      that a token was looked for. -/
  rejected : ∀ token cause, tokenFor host bindings options world.effects = .ok token →
    Context.build { options with token := token } (.ofVariables bindings) = .error cause →
      ending.exitCode = 2 ∧ final = afterToken bindings options world
  /-- If the run comes to its end, its exit code is that of the command, and the command adds
      nothing but what it prints. -/
  finished : ∀ token context run after,
    tokenFor host bindings options world.effects = .ok token →
    Context.build { options with token := token } (.ofVariables bindings) = .ok context →
    (Run.start host context config none false).run.run (afterToken bindings options world) =
      (.ok run, after) →
      ending.exitCode = run.exitCode ∧ final.silent = after.silent
  /-- If the run fails, because of the server, of the repository or of anything else, the exit
      code is 1. -/
  failed : ∀ token context cause after,
    tokenFor host bindings options world.effects = .ok token →
    Context.build { options with token := token } (.ofVariables bindings) = .ok context →
    (Run.start host context config none false).run.run (afterToken bindings options world) =
      (.error cause, after) →
      ending.exitCode = 1 ∧ final = after
  /-- If a session cannot be asked for its token, there is no context and no run. -/
  unresolved : ∀ cause, tokenFor host bindings options world.effects = .error cause →
    ending.exitCode = 1 ∧ final = afterToken bindings options world

/-- A run that fails ends the command with exit code 1. -/
theorem exitCode_endingOf (context : Context) (cause : Failure) :
    (endingOf context cause).exitCode = 1 := by
  unfold endingOf
  split <;> rfl

/-- A run that is asked for is checked before anything is done. -/
theorem perform_validates {host : Host} {bindings : List (String × String)} {path : String}
    {request : RunRequest} {config : Table} {world final : World}
    {outcome : Except Ending Ending}
    (loaded : Config.load world.files path request.overrides = .ok config)
    (ran : (perform host bindings path request).run.run world = (outcome, final)) :
    ValidatesFirst host bindings request.options config world (.ofOutcome outcome) final := by
  constructor
  · intro token cause resolved rejected
    rw [perform_rejected loaded resolved rejected] at ran
    obtain ⟨rfl, rfl⟩ := Prod.mk.inj ran
    exact ⟨rfl, rfl⟩
  · intro token context run after resolved accepted started
    obtain ⟨shown, finished⟩ := perform_finished loaded resolved accepted started
    rw [finished] at ran
    obtain ⟨rfl, rfl⟩ := Prod.mk.inj ran
    exact ⟨rfl, rfl⟩
  · intro token context cause after resolved accepted started
    rw [perform_failed loaded resolved accepted started] at ran
    obtain ⟨rfl, rfl⟩ := Prod.mk.inj ran
    exact ⟨exitCode_endingOf context cause, rfl⟩
  · intro cause unresolved
    rw [perform_unresolved loaded unresolved] at ran
    obtain ⟨rfl, rfl⟩ := Prod.mk.inj ran
    exact ⟨rfl, rfl⟩

/-- What the program does with any arguments. A run that is asked for is checked before
    anything is done, and if it is to post nothing, it keeps away from the server, with a
    configuration or without one. Arguments that ask for no run change nothing but what is
    printed. -/
theorem execute_validates {host : Host} {bindings : List (String × String)}
    {arguments : List String} {world final : World} {ending : Ending}
    (ran : (execute host bindings arguments).run world = (ending, final)) :
    (∀ path request, AsksForRun bindings arguments path request →
      (∀ config, Config.load world.files path request.overrides = .ok config →
        ValidatesFirst host bindings request.options config world ending final) ∧
      (¬ request.options.Posts → world.KeepsFromServer final)) ∧
    ((∀ path request, ¬ AsksForRun bindings arguments path request) →
      ending.Declines ∧ final.silent = world.silent) := by
  constructor
  · intro path request asked
    rcases performed : (perform host bindings path request).run.run world with ⟨outcome, last⟩
    have started := performed
    rw [← start_of_asked host asked] at started
    rw [execute_of_start started] at ran
    obtain ⟨rfl, rfl⟩ := Prod.mk.inj ran
    constructor
    · intro config loaded
      exact perform_validates loaded performed
    · intro silent
      exact perform_keepsFromServer silent performed
  · intro unasked
    obtain ⟨other, shown, declines, answered⟩ := execute_unasked host unasked world
    rw [answered] at ran
    obtain ⟨rfl, rfl⟩ := Prod.mk.inj ran
    exact ⟨declines, rfl⟩

/-- Surroundings without any program. -/
def bareHost : Host where
  outcome _ _ := .failed .missing
  openError _ _ := none
  difference _ _ _ := .ok ""
  refusal _ _ := none
  login := ""

/-- Arguments that ask for a comment and do not say where. -/
def carelessArguments : List String := ["run", "--target", "main", "--enable-comment-on-issue"]

/-- What they ask for. -/
def carelessRequest : RunRequest where
  options := { target := some "main", comment := some true }
  analyzer := ⟨none, none, none⟩
  formatter := ⟨none, none, none⟩

/-- The command is refused, and all that was done is that a token was looked for. -/
theorem execute_validates_careless :
    ∃ ending final,
      (execute bareHost [] carelessArguments).run Run.smallWorld = (ending, final) ∧
      AsksForRun [] carelessArguments ".lintlens.yml" carelessRequest ∧
      (∀ config, Config.load Run.smallWorld.files ".lintlens.yml" carelessRequest.overrides =
          .ok config →
        ValidatesFirst bareHost [] carelessRequest.options config Run.smallWorld ending final) ∧
      ending.exitCode = 2 ∧ final.effects = [.launch Token.request] := by
  have asked : AsksForRun [] carelessArguments ".lintlens.yml" carelessRequest := by
    refine ⟨[], ["--target", "main", "--enable-comment-on-issue"],
      [⟨.target, .text "main"⟩, ⟨.comment, .switch true⟩], rfl, by decide, rfl, rfl, by decide, rfl⟩
  rcases ran : (execute bareHost [] carelessArguments).run Run.smallWorld with ⟨ending, final⟩
  have validates := ((execute_validates ran).1 _ _ asked).1
  obtain ⟨config, loaded⟩ : ∃ config, Config.load Run.smallWorld.files ".lintlens.yml"
      carelessRequest.overrides = .ok config := ⟨_, rfl⟩
  have rejected := (validates config loaded).rejected none (.missing .locally .repoPath) rfl rfl
  refine ⟨ending, final, rfl, asked, validates, rejected.1, ?_⟩
  rw [rejected.2]
  rfl

end CommandLine

end LintReview

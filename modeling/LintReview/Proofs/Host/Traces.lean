import LintReview.Host.Session
import LintReview.PullRequest.BotComment
import Mathlib.Data.List.Basic

/-!
# What a session leaves behind

The effects of a session explain the world that it leaves: apart from what was printed, it is
the world before with the effects carried out one after the other (`Traced.left`). Nothing is
undone, and nothing is done after an effect that fails: its failure is how the session ends
(`Traced.last`).

`Session.Follows` compares a session with a plan, a list of effects that is known beforehand.
If the session comes to its end, it has done what the plan says, otherwise a beginning of it.
Plans are put together as the sessions are, one law for each way of doing so.
-/

namespace LintReview

variable {α β : Type}

namespace World

/-- The world, apart from what was printed. -/
def silent (world : World) : World := { world with console := "" }

/-- The failure with which an effect is answered in a world, if it is one that ends a run. A
    program that is missing or may not be run does not end it. -/
def failure? (host : Host) (world : World) : Effect → Option Failure
  | .launch request =>
    match CommandResult.ofOutcome request (host.outcome world.effects request) with
    | .ok _ => none
    | .error cause => some (.launch cause request)
  | .openRepository path =>
    (host.openError world.effects path).map fun cause => .repository cause path
  | .difference target source =>
    match host.difference world.effects target source with
    | .ok _ => none
    | .error cause => some (.git cause)
  | .github call => (host.refusal world.effects call).map .github
  | .append path text =>
    match world.files.append path (Text.encode text.toList) with
    | .ok _ => none
    | .error cause => some (.file cause)

/-- The world after a comment is made. -/
def withComment (host : Host) (world : World) : World :=
  { world with
    comments := world.comments ++ [⟨world.nextComment, some host.login⟩]
    nextComment := world.nextComment + 1 }

/-- The world after an effect. One that fails is noted and changes nothing else. -/
def after (host : Host) (world : World) (effect : Effect) : World :=
  match effect with
  | .github (.createComment body) =>
    match host.refusal world.effects (.createComment body) with
    | none => (world.withComment host).record effect
    | some _ => world.record effect
  | .append path text =>
    match world.files.append path (Text.encode text.toList) with
    | .ok files => { world with files := files }.record effect
    | .error _ => world.record effect
  | _ => world.record effect

/-- The world after effects, one after the other. -/
def afterAll (host : Host) (world : World) (effects : List Effect) : World :=
  effects.foldl (World.after host) world

@[simp]
theorem silent_effects (world : World) : world.silent.effects = world.effects := rfl

@[simp]
theorem silent_comments (world : World) : world.silent.comments = world.comments := rfl

@[simp]
theorem afterAll_nil (host : Host) (world : World) : world.afterAll host [] = world := rfl

theorem afterAll_append (host : Host) (world : World) (first second : List Effect) :
    world.afterAll host (first ++ second) = (world.afterAll host first).afterAll host second :=
  List.foldl_append

@[simp]
theorem after_effects (host : Host) (world : World) (effect : Effect) :
    (world.after host effect).effects = world.effects ++ [effect] := by
  unfold after
  split
  · split <;> rfl
  · split <;> rfl
  · rfl

/-- Effects are noted in their order. -/
@[simp]
theorem afterAll_effects (host : Host) (world : World) (effects : List Effect) :
    (world.afterAll host effects).effects = world.effects ++ effects := by
  induction effects generalizing world with
  | nil => simp
  | cons effect rest inductionHypothesis =>
    have tail : ((world.after host effect).afterAll host rest).effects =
        (world.after host effect).effects ++ rest := inductionHypothesis _
    rw [after_effects, List.append_assoc, List.singleton_append] at tail
    exact tail

/-- Only making a comment changes the comments. -/
theorem after_comments {host : Host} {world : World} {effect : Effect}
    (other : ∀ body, effect ≠ .github (.createComment body)) :
    (world.after host effect).comments = world.comments := by
  unfold after
  split
  · exact absurd rfl (other _)
  · split <;> rfl
  · rfl

/-- Effects that make no comment leave the comments as they are. -/
theorem afterAll_comments {host : Host} {effects : List Effect} {world : World}
    (others : ∀ body, Effect.github (.createComment body) ∉ effects) :
    (world.afterAll host effects).comments = world.comments := by
  induction effects generalizing world with
  | nil => rfl
  | cons effect rest inductionHypothesis =>
    have head : ∀ body, effect ≠ .github (.createComment body) := by
      rintro body rfl
      exact others body List.mem_cons_self
    have tail : ((world.after host effect).afterAll host rest).comments =
        (world.after host effect).comments :=
      inductionHypothesis fun body member => others body (List.mem_cons_of_mem _ member)
    exact tail.trans (after_comments head)

end World

/-- What a part of a run, which goes from one world to another and comes to an outcome, has
    done. -/
structure Traced (host : Host) (world : World) (outcome : Except Failure α) (final : World)
    (done : List Effect) : Prop where
  /-- The world that is left is the one before with the effects carried out. -/
  left : final.silent = world.silent.afterAll host done
  /-- An effect that fails is the last, and its failure is the outcome. -/
  last : ∀ earlier effect later cause, done = earlier ++ effect :: later →
    (world.silent.afterAll host earlier).failure? host effect = some cause →
      later = [] ∧ outcome = .error cause

namespace Traced

variable {host : Host} {world middle final : World} {done : List Effect}

theorem effects_eq {outcome : Except Failure α} (traced : Traced host world outcome final done) :
    final.effects = world.effects ++ done := by
  have same := congrArg World.effects traced.left
  rwa [World.afterAll_effects, World.silent_effects, World.silent_effects] at same

theorem comments_eq {outcome : Except Failure α} (traced : Traced host world outcome final done)
    (others : ∀ body, Effect.github (.createComment body) ∉ done) :
    final.comments = world.comments := by
  have same := congrArg World.comments traced.left
  rwa [World.afterAll_comments others, World.silent_comments, World.silent_comments] at same

/-- What does nothing leaves everything as it is. -/
theorem nothing (outcome : Except Failure α) (same : final.silent = world.silent) :
    Traced host world outcome final [] where
  left := same
  last := by
    intro earlier effect later cause split
    have impossible := congrArg List.length split
    simp at impossible

/-- A single effect, whose failure is the outcome if it fails. -/
theorem single {outcome : Except Failure α} {effect : Effect}
    (left : final.silent = world.silent.after host effect)
    (failed : ∀ cause, world.silent.failure? host effect = some cause → outcome = .error cause) :
    Traced host world outcome final [effect] where
  left := left
  last := by
    intro earlier other later cause split fails
    obtain ⟨rfl, rfl, rfl⟩ : earlier = [] ∧ effect = other ∧ later = [] := by
      rcases earlier with _ | ⟨head, tail⟩
      · simpa using split
      · have impossible := congrArg List.length split
        simp at impossible
    exact ⟨rfl, failed cause fails⟩

/-- Two parts, of which the first comes to its end. Nothing in the first part failed, so only
    the last effect of the second may have. -/
theorem append {result : α} {outcome : Except Failure β} {first second : List Effect}
    (before : Traced host world (.ok result : Except Failure α) middle first)
    (next : Traced host middle outcome final second) :
    Traced host world outcome final (first ++ second) where
  left := by rw [next.left, before.left, World.afterAll_append]
  last := by
    intro earlier effect later cause split fails
    rcases List.append_eq_append_iff.mp split with ⟨rest, rfl, inSecond⟩ | ⟨rest, same, inFirst⟩
    · rw [World.afterAll_append, ← before.left] at fails
      exact next.last rest effect later cause inSecond fails
    · rcases rest with _ | ⟨head, tail⟩
      · rw [List.append_nil] at same
        subst same
        rw [← before.left] at fails
        exact next.last [] effect later cause inFirst.symm fails
      · obtain ⟨rfl, -⟩ : effect = head ∧ later = tail ++ second := by simpa using inFirst
        obtain ⟨-, impossible⟩ := before.last earlier effect tail cause same fails
        cases impossible

/-- How a part ends matters only for the last effect, and only if it failed. -/
theorem outcome_congr {first : Except Failure α} {second : Except Failure β}
    (traced : Traced host world first final done)
    (same : ∀ cause, first = .error cause → second = .error cause) :
    Traced host world second final done where
  left := traced.left
  last := by
    intro earlier effect later cause split fails
    obtain ⟨ended, failed⟩ := traced.last earlier effect later cause split fails
    exact ⟨ended, same cause failed⟩

end Traced

namespace Session

variable {host : Host} {world middle final : World} {act : Session α} {next : α → Session β}

section Parts

/- What is said here of the parts of a session holds for any kind of failure, and so for the
   parts of a command too. -/
variable {ε : Type} {act : ExceptT ε (StateM World) α} {next : α → ExceptT ε (StateM World) β}

/-- If the first of two parts fails, the second is not begun. -/
theorem run_bind_error {cause : ε} (failed : act.run.run world = (.error cause, final)) :
    (act >>= next).run.run world = (.error cause, final) := by
  rw [ExceptT.run_bind, StateT.run_bind, failed]
  rfl

/-- If the first of two parts comes to its end, the second goes on from there. -/
theorem run_bind_ok {result : α} (ended : act.run.run world = (.ok result, middle)) :
    (act >>= next).run.run world = (next result).run.run middle := by
  rw [ExceptT.run_bind, StateT.run_bind, ended]
  rfl

end Parts

/-- A value that is at hand, or a failure, is what it is in every world. -/
theorem lift_run (value : Except Failure α) :
    (liftM value : Session α).run.run world = (value, world) := rfl

/-- What acts on the world without failing comes to its end. -/
theorem liftState_run {act : StateM World α} {result : α}
    (ended : act.run world = (result, final)) :
    (liftM act : Session α).run.run world = (.ok result, final) := by
  change (Except.ok <$> act).run world = _
  rw [StateT.run_map, ended]
  rfl

/-- Two parts that come to their end both do. -/
theorem run_bind_inv {result : β} (ran : (act >>= next).run.run world = (.ok result, final)) :
    ∃ first middle, act.run.run world = (.ok first, middle) ∧
      (next first).run.run middle = (.ok result, final) := by
  rcases ended : act.run.run world with ⟨outcome, middle⟩
  cases outcome with
  | error cause =>
    rw [run_bind_error ended] at ran
    cases ran
  | ok first =>
    rw [run_bind_ok ended] at ran
    exact ⟨first, middle, rfl, ran⟩

/-- A session that does what a plan says, or a beginning of it if it fails. -/
def Follows (host : Host) (plan : List Effect) (act : Session α) (world : World) : Prop :=
  ∀ outcome final, act.run.run world = (outcome, final) →
    ∃ done, Traced host world outcome final done ∧ done <+: plan ∧
      ∀ result, outcome = .ok result → done = plan

namespace Follows

variable {plan first second : List Effect}

/-- A session that came to its end has done all of its plan. -/
theorem traced_ok {result : α} (follows : Follows host plan act world)
    (ran : act.run.run world = (.ok result, final)) :
    Traced host world (.ok result : Except Failure α) final plan := by
  obtain ⟨done, traced, -, complete⟩ := follows _ _ ran
  exact complete result rfl ▸ traced

/-- How a session ended, and what it has done, shows that it follows a plan. -/
theorem of_traced {outcome : Except Failure α} {done : List Effect}
    (ran : act.run.run world = (outcome, final)) (traced : Traced host world outcome final done)
    (begun : done <+: plan) (complete : ∀ result, outcome = .ok result → done = plan) :
    Follows host plan act world := by
  intro other last again
  obtain ⟨rfl, rfl⟩ := Prod.mk.inj (ran.symm.trans again)
  exact ⟨done, traced, begun, complete⟩

/-- What is known without doing anything. -/
theorem of_run {outcome : Except Failure α}
    (ran : act.run.run world = (outcome, final)) (same : final.silent = world.silent) :
    Follows host [] act world :=
  .of_traced ran (.nothing outcome same) List.nil_prefix fun _ _ => rfl

/-- One effect. -/
theorem single {outcome : Except Failure α} {effect : Effect}
    (ran : act.run.run world = (outcome, final))
    (left : final.silent = world.silent.after host effect)
    (failed : ∀ cause, world.silent.failure? host effect = some cause → outcome = .error cause) :
    Follows host [effect] act world :=
  .of_traced ran (.single left failed) List.prefix_rfl fun _ _ => rfl

theorem pure (result : α) : Follows host [] (Pure.pure result : Session α) world :=
  of_run rfl rfl

/-- A value that is at hand, or a failure. -/
theorem lift (value : Except Failure α) :
    Follows host [] (liftM value : Session α) world :=
  of_run rfl rfl

/-- One part after the other. -/
theorem bind (begins : Follows host first act world)
    (goesOn : ∀ result middle, act.run.run world = (.ok result, middle) →
      Follows host second (next result) middle) :
    Follows host (first ++ second) (act >>= next) world := by
  intro outcome final ran
  rcases ended : act.run.run world with ⟨before, middle⟩
  obtain ⟨done, traced, begun, complete⟩ := begins _ _ ended
  cases before with
  | error cause =>
    rw [run_bind_error ended] at ran
    obtain ⟨rfl, rfl⟩ := Prod.mk.inj ran
    refine ⟨done, traced.outcome_congr fun _ same => ?_, begun.trans (List.prefix_append _ _), ?_⟩
    · cases same
      rfl
    · intro result impossible
      cases impossible
  | ok result =>
    rw [run_bind_ok ended] at ran
    obtain rfl : done = first := complete result rfl
    obtain ⟨later, nextTraced, nextBegun, nextComplete⟩ := goesOn result middle ended _ _ ran
    refine ⟨done ++ later, traced.append nextTraced,
      (List.prefix_append_right_inj done).mpr nextBegun, ?_⟩
    intro last same
    rw [nextComplete last same]

/-- A part that does nothing, and then another. -/
theorem bind_silent (begins : Follows host [] act world)
    (goesOn : ∀ result middle, act.run.run world = (.ok result, middle) →
      Follows host second (next result) middle) :
    Follows host second (act >>= next) world := by
  have both := begins.bind goesOn
  rwa [List.nil_append] at both

/-- A part, and then another that does nothing. -/
theorem bind_quiet (begins : Follows host first act world)
    (goesOn : ∀ result middle, act.run.run world = (.ok result, middle) →
      Follows host [] (next result) middle) :
    Follows host first (act >>= next) world := by
  have both := begins.bind goesOn
  rwa [List.append_nil] at both

end Follows

/-! ## The parts of a session -/

/-- Running a program is one launch. -/
theorem execute_run (host : Host) (program : String) (arguments : List String) (folder : String)
    (world : World) :
    (execute host program arguments folder).run.run world =
      ((CommandResult.ofOutcome ⟨program, arguments, some folder⟩
          (host.outcome world.effects ⟨program, arguments, some folder⟩)).mapError
            fun cause => .launch cause ⟨program, arguments, some folder⟩,
        world.record (.launch ⟨program, arguments, some folder⟩)) := by
  have launched : (launch host ⟨program, arguments, some folder⟩).run.run world =
      (.ok (host.outcome world.effects ⟨program, arguments, some folder⟩),
        world.record (.launch ⟨program, arguments, some folder⟩)) := rfl
  rw [execute, run_bind_ok launched]
  split
  · next found => rw [found]; rfl
  · next found => rw [found]; rfl

theorem execute_follows (host : Host) (program : String) (arguments : List String)
    (folder : String) (world : World) :
    Follows host [.launch ⟨program, arguments, some folder⟩]
      (execute host program arguments folder) world := by
  refine .single (execute_run host program arguments folder world) rfl ?_
  intro cause fails
  simp only [World.failure?, World.silent_effects] at fails
  split at fails
  · cases fails
  · next found =>
    cases fails
    rw [found]
    rfl

/-- Asking the server is one call. -/
theorem ask_run (host : Host) (call : Github.Call) (world : World) :
    (ask host call).run.run world =
      (match host.refusal world.effects call with
        | none => .ok ()
        | some refusal => .error (.github refusal),
        world.record (.github call)) := by
  have performed : (perform (.github call)).run.run world =
      (.ok world.effects, world.record (.github call)) := rfl
  rw [ask, run_bind_ok performed]
  cases refused : host.refusal world.effects call <;> rfl

theorem ask_follows (host : Host) (call : Github.Call) (world : World)
    (other : ∀ body, call ≠ .createComment body) :
    Follows host [.github call] (ask host call) world := by
  refine .single (ask_run host call world) ?_ ?_
  · unfold World.after
    split
    · next body same => exact absurd (Effect.github.inj same) (other body)
    · next same => cases same
    · rfl
  · intro cause fails
    obtain ⟨refusal, found, rfl⟩ := Option.map_eq_some_iff.mp fails
    rw [World.silent_effects] at found
    rw [found]

/-- Making a comment is one call. If it is refused, there is no comment. -/
theorem create_run (host : Host) (body : String) (world : World) :
    (BotComment.create host body).run.run world =
      match host.refusal world.effects (.createComment body) with
      | none => (.ok world.nextComment,
          (world.withComment host).record (.github (.createComment body)))
      | some refusal => (.error (.github refusal),
          world.record (.github (.createComment body))) := by
  have asked := ask_run host (.createComment body) world
  cases refused : host.refusal world.effects (.createComment body) with
  | none =>
    rw [refused] at asked
    exact run_bind_ok asked
  | some refusal =>
    rw [refused] at asked
    exact run_bind_error asked

theorem create_follows (host : Host) (body : String) (world : World) :
    Follows host [.github (.createComment body)] (BotComment.create host body) world := by
  have ran := create_run host body world
  cases refused : host.refusal world.effects (.createComment body) with
  | some refusal =>
    rw [refused] at ran
    refine .single ran ?_ ?_
    · simp only [World.after, World.silent_effects, refused]
      rfl
    · intro cause fails
      simp only [World.failure?, World.silent_effects, refused, Option.map_some,
        Option.some.injEq] at fails
      rw [fails]
  | none =>
    rw [refused] at ran
    refine .single ran ?_ ?_
    · simp only [World.after, World.silent_effects, refused]
      rfl
    · intro cause fails
      simp [World.failure?, refused] at fails

/-- Putting text at the end of a file is one effect. -/
theorem append_run (path text : String) (world : World) :
    (append path text).run.run world =
      match world.files.append path (Text.encode text.toList) with
      | .ok files => (.ok (), { world with files := files }.record (.append path text))
      | .error cause => (.error (.file cause), world.record (.append path text)) := by
  have performed : (perform (.append path text)).run.run world =
      (.ok world.effects, world.record (.append path text)) := rfl
  have found : (get : Session World).run.run (world.record (.append path text)) =
      (.ok (world.record (.append path text)), world.record (.append path text)) := rfl
  rw [append, run_bind_ok performed, run_bind_ok found]
  change StateT.run (ExceptT.run
    (match world.files.append path (Text.encode text.toList) with
      | .ok files => set { world.record (.append path text) with files := files }
      | .error cause => throw (Failure.file cause))) _ = _
  cases world.files.append path (Text.encode text.toList) <;> rfl

theorem append_follows (host : Host) (path text : String) (world : World) :
    Follows host [.append path text] (append path text) world := by
  have ran := append_run path text world
  cases appended : world.files.append path (Text.encode text.toList) with
  | error cause =>
    rw [appended] at ran
    refine .single ran ?_ ?_
    · simp only [World.after, World.silent, appended]
      rfl
    · intro other fails
      simp only [World.failure?, World.silent, appended, Option.some.injEq] at fails
      rw [fails]
  | ok files =>
    rw [appended] at ran
    refine .single ran ?_ ?_
    · simp only [World.after, World.silent, appended]
      rfl
    · intro other fails
      simp [World.failure?, World.silent, appended] at fails

/-- Printing does nothing to the world but show a text. -/
theorem print_follows (host : Host) (text : String) (world : World) :
    Follows host [] (print text) world :=
  .of_run rfl rfl

/-- A change is loaded by opening the repository and asking for the difference. -/
theorem loadChange_follows (host : Host) (path target source : String) (world : World) :
    Follows host [.openRepository path, .difference target source]
      (loadChange host path target source) world := by
  let opened := world.record (.openRepository path)
  let asked := opened.record (.difference target source)
  have performed : (perform (.openRepository path)).run.run world =
      (.ok world.effects, opened) := rfl
  have performedNext : (perform (.difference target source)).run.run opened =
      (.ok opened.effects, asked) := rfl
  cases refused : host.openError world.effects path with
  | some cause =>
    have ran : (loadChange host path target source).run.run world =
        (.error (.repository cause path), opened) := by
      rw [loadChange, run_bind_ok performed, refused]
      rfl
    refine .of_traced ran (.single rfl ?_) (List.prefix_append [_] [_]) (by rintro _ ⟨⟩)
    intro other fails
    simp only [World.failure?, World.silent_effects, refused, Option.map_some,
      Option.some.injEq] at fails
    rw [fails]
  | none =>
    have first : Traced host world (.ok () : Except Failure Unit) opened
        [.openRepository path] := by
      refine .single rfl ?_
      intro other fails
      simp [World.failure?, refused] at fails
    cases answered : host.difference opened.effects target source with
    | error cause =>
      have ran : (loadChange host path target source).run.run world =
          (.error (.git cause), asked) := by
        rw [loadChange, run_bind_ok performed, refused]
        change StateT.run (ExceptT.run (perform (.difference target source) >>= _)) opened = _
        rw [run_bind_ok performedNext, answered]
        rfl
      refine .of_traced ran (first.append (.single rfl ?_)) List.prefix_rfl fun _ _ => rfl
      intro other fails
      simp only [World.failure?, World.silent_effects, answered, Option.some.injEq] at fails
      rw [fails]
    | ok text =>
      let completed := if text = "" then "" else text ++ "\n"
      have ran : (loadChange host path target source).run.run world =
          ((Diff.Change.ofDiff completed).mapError .change, asked) := by
        rw [loadChange, run_bind_ok performed, refused]
        change StateT.run (ExceptT.run (perform (.difference target source) >>= _)) opened = _
        rw [run_bind_ok performedNext, answered]
        dsimp only
        cases Diff.Change.ofDiff completed <;> rfl
      refine .of_traced ran (first.append (.single rfl ?_)) List.prefix_rfl fun _ _ => rfl
      intro other fails
      simp [World.failure?, answered] at fails

end Session

end LintReview

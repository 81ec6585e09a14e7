import LintReview.Proofs.PullRequest.Attempts
import Mathlib.Data.List.Nodup

/-!
# Runs that keep their comment at the same time

Several runs on one pull request keep a comment under the same name, the one under which the
server posts. Between two steps of one the others make theirs, other users add comments, and the
server numbers comments as it likes, as long as no number comes twice (`Shared.Step`).

Runs that overlap may each make a comment. If no two do (`Shared.LoneStep`), at most one comment
is ever made, and all runs end with the same one if the comments of others are not theirs.
-/

namespace LintReview.Upkeep

open BotComment

/-- Runs on one pull request. -/
structure Shared where
  world : World
  attempts : List Attempt

/-- One step of one of the runs, or something that happens on the server in between. The
    comments of others are of some kind. -/
inductive Shared.Step (host : Host) (foreign : Github.Comment → Prop) : Shared → Shared → Prop
    where
  | moves {world after : World} {before later : List Attempt} {attempt next : Attempt}
      (step : Attempt.Moves host world attempt after next) :
      Step host foreign ⟨world, before ++ attempt :: later⟩ ⟨after, before ++ next :: later⟩
  /-- Someone else adds a comment. -/
  | others {world : World} {attempts : List Attempt} {comment : Github.Comment}
      (kind : foreign comment) (fresh : ∀ known ∈ world.comments, known.id ≠ comment.id) :
      Step host foreign ⟨world, attempts⟩
        ⟨{ world with comments := world.comments ++ [comment] }, attempts⟩
  /-- The server chooses another number for the next comment. -/
  | numbers {world : World} {attempts : List Attempt} (next : Int) :
      Step host foreign ⟨world, attempts⟩ ⟨{ world with nextComment := next }, attempts⟩

/-! ## What all steps preserve -/

/-- What holds of runs on one pull request that began in a world. -/
structure Shared.Sound (host : Host) (start : World) (bodies : List String) (shared : Shared) :
    Prop where
  /-- No two comments have the same number. -/
  distinct : (shared.world.comments.map Github.Comment.id).Nodup
  bodies : shared.attempts.map Attempt.body = bodies
  attempts : ∀ attempt ∈ shared.attempts, attempt.Sound host shared.world.comments
  /-- The calls of the runs, and no others, were made. -/
  calls : ∃ done : List Github.Call,
    shared.world.effects = start.effects ++ done.map Effect.github ∧
      done.Perm (shared.attempts.flatMap Attempt.calls)

/-- A comment with a new number keeps the numbers apart. -/
theorem nodup_append_new {comments : List Github.Comment} {comment : Github.Comment}
    (distinct : (comments.map Github.Comment.id).Nodup)
    (fresh : ∀ known ∈ comments, known.id ≠ comment.id) :
    ((comments ++ [comment]).map Github.Comment.id).Nodup := by
  rw [List.map_append, List.map_singleton]
  refine List.nodup_append.mpr ⟨distinct, List.nodup_singleton _, ?_⟩
  intro id member other last
  obtain ⟨known, inside, rfl⟩ := List.mem_map.mp member
  rw [List.mem_singleton.mp last]
  exact fresh known inside

/-- One more call of one of the runs. -/
theorem perm_one_call {done : List Github.Call} {before later : List Attempt}
    {attempt next : Attempt} {call : Github.Call} (more : next.calls = attempt.calls ++ [call])
    (calls : done.Perm ((before ++ attempt :: later).flatMap Attempt.calls)) :
    (done ++ [call]).Perm ((before ++ next :: later).flatMap Attempt.calls) := by
  rw [List.flatMap_append, List.flatMap_cons, ← List.append_assoc] at calls
  rw [List.flatMap_append, List.flatMap_cons, more, List.append_assoc, List.singleton_append,
    ← List.append_assoc]
  calc List.Perm (done ++ [call]) (call :: done) := List.perm_append_singleton call done
    List.Perm _ (call :: (before.flatMap Attempt.calls ++ attempt.calls ++
        later.flatMap Attempt.calls)) := calls.cons call
    List.Perm _ (before.flatMap Attempt.calls ++ attempt.calls ++
        call :: later.flatMap Attempt.calls) := List.perm_middle.symm

/-- One of the runs after a step of one of them is the one that took it or another, which
    stays as it is. -/
theorem mem_after_step {before later : List Attempt} {next other : Attempt}
    (member : other ∈ before ++ next :: later) :
    other = next ∨ other ∈ before ++ later := by
  rcases List.mem_append.mp member with inBefore | inRest
  · exact .inr (List.mem_append_left _ inBefore)
  · rcases List.mem_cons.mp inRest with rfl | inLater
    · exact .inl rfl
    · exact .inr (List.mem_append_right _ inLater)

/-- A run that does not take the step was there before it. -/
theorem mem_of_unmoved {before later : List Attempt} {attempt other : Attempt}
    (unmoved : other ∈ before ++ later) : other ∈ before ++ attempt :: later :=
  ((List.sublist_cons_self attempt later).append_left before).subset unmoved

/-- What holds of the runs still holds after a step. -/
theorem Shared.Step.sound {host : Host} {foreign : Github.Comment → Prop} {start : World}
    {bodies : List String} {shared next : Shared} (step : Step host foreign shared next)
    (sound : shared.Sound host start bodies) : next.Sound host start bodies := by
  obtain ⟨distinct, same, attempts, done, made, calls⟩ := sound
  cases step with
  | @moves world after before later attempt next step =>
    obtain ⟨call, effects, nextCalls, body, comments⟩ := step.one_call
    refine ⟨?_, ?_, ?_, done ++ [call], ?_, ?_⟩
    · rcases comments with same | ⟨added, fresh⟩
      · rw [same]
        exact distinct
      · rw [added]
        exact nodup_append_new distinct fresh
    · rw [← same, List.map_append, List.map_append, List.map_cons, List.map_cons, body]
    · intro other member
      rcases mem_after_step member with rfl | unmoved
      · exact step.sound (attempts attempt (by simp))
      · exact (attempts other (mem_of_unmoved unmoved)).grow step.kept
    · rw [effects, made, List.map_append, List.append_assoc]
      rfl
    · exact perm_one_call nextCalls calls
  | others kind fresh =>
    refine ⟨nodup_append_new distinct fresh, same, ?_, done, made, calls⟩
    intro attempt member
    exact (attempts attempt member).grow (List.prefix_append _ _)
  | numbers number => exact ⟨distinct, same, attempts, done, made, calls⟩

/-- Runs that have not begun. -/
def Shared.begin (host : Host) (start : World) (bodies : List String) : Shared :=
  ⟨start, bodies.map (Attempt.new host)⟩

theorem Shared.sound_begin (host : Host) {start : World} (bodies : List String)
    (distinct : (start.comments.map Github.Comment.id).Nodup) :
    (Shared.begin host start bodies).Sound host start bodies := by
  refine ⟨distinct, ?_, ?_, [], ?_, ?_⟩
  · change (bodies.map (Attempt.new host)).map Attempt.body = bodies
    rw [List.map_map]
    exact List.map_id bodies
  · intro attempt member
    obtain ⟨body, -, rfl⟩ := List.mem_map.mp member
    exact .ready rfl rfl
  · exact (List.append_nil _).symm
  · have none : (bodies.map (Attempt.new host)).flatMap Attempt.calls = [] := by
      simp [List.flatMap_map, Attempt.new]
    change List.Perm [] ((bodies.map (Attempt.new host)).flatMap Attempt.calls)
    rw [none]

/-- It holds after any number of steps. -/
theorem Shared.sound_of_reached {host : Host} {foreign : Github.Comment → Prop} {start : World}
    {bodies : List String} {shared : Shared}
    (distinct : (start.comments.map Github.Comment.id).Nodup)
    (reached : Relation.ReflTransGen (Step host foreign) (Shared.begin host start bodies)
      shared) : shared.Sound host start bodies := by
  induction reached with
  | refl => exact sound_begin host bodies distinct
  | tail _ step inductionHypothesis => exact step.sound inductionHypothesis

/-! ## Runs that do not overlap -/

/-- The run has begun and has not finished. -/
def Attempt.isUnderWay (attempt : Attempt) : Bool :=
  match attempt.rest with
  | .done _ => false
  | _ => !attempt.calls.isEmpty

theorem Attempt.isUnderWay_iff {attempt : Attempt} :
    attempt.isUnderWay = true ↔ (∀ id, attempt.rest ≠ .done id) ∧ attempt.calls ≠ [] := by
  unfold isUnderWay
  cases attempt.rest <;> simp

/-- A run that has finished is not under way. -/
theorem Attempt.not_isUnderWay_of_done {attempt : Attempt} {id : Int}
    (finished : attempt.rest = .done id) : attempt.isUnderWay = false := by
  rw [isUnderWay, finished]

/-- A step after which at most one run is under way. -/
def Shared.LoneStep (host : Host) (foreign : Github.Comment → Prop) (shared next : Shared) :
    Prop :=
  Step host foreign shared next ∧ next.attempts.countP Attempt.isUnderWay ≤ 1

/-- The comments of others are not the bot's own. -/
def Shared.Apart (host : Host) (foreign : Github.Comment → Prop) : Prop :=
  ∀ comment, foreign comment → ¬comment.MayBeOf host.login

/-- What holds of runs that do not overlap. -/
structure Shared.Settled (host : Host) (foreign : Github.Comment → Prop) (shared : Shared) :
    Prop where
  lone : shared.attempts.countP Attempt.isUnderWay ≤ 1
  /-- Where a run has finished, a comment is the bot's own, and the first of them is that of
      the run if the comments of others are not. -/
  finished : ∀ attempt ∈ shared.attempts, ∀ id, attempt.rest = .done id →
    ∃ first, (ours host).first? shared.world.comments = some first ∧
      (Apart host foreign → first = id)
  /-- A run that is under way and saw no such comment was the first to begin. -/
  begins : ∀ attempt ∈ shared.attempts, attempt.isUnderWay = true →
    (ours host).first? attempt.seen = none →
    ∀ other ∈ shared.attempts, ∀ id, other.rest ≠ .done id
  /-- It would still see what it saw. -/
  underWay : ∀ attempt ∈ shared.attempts, attempt.isUnderWay = true → Apart host foreign →
    (ours host).first? shared.world.comments = (ours host).first? attempt.seen
  created : shared.attempts.countP (Attempt.hasCreated host) ≤ 1

/-- Of runs that are not under way there is none that is. -/
theorem countP_idle {attempts : List Attempt}
    (idle : ∀ attempt ∈ attempts, attempt.isUnderWay = false) :
    attempts.countP Attempt.isUnderWay = 0 := by
  rw [List.countP_eq_zero]
  intro attempt member
  simp [idle attempt member]

/-- Where all others are not under way, at most one run is. -/
theorem lone_of_idle {before later : List Attempt}
    (idle : ∀ other ∈ before ++ later, other.isUnderWay = false) (attempt : Attempt) :
    (before ++ attempt :: later).countP Attempt.isUnderWay ≤ 1 := by
  have none := countP_idle idle
  rw [List.countP_append] at none
  rw [List.countP_append, List.countP_cons]
  split <;> omega

/-- While one run is under way, no other is. -/
theorem idle_of_lone {before later : List Attempt} {attempt : Attempt}
    (lone : (before ++ attempt :: later).countP Attempt.isUnderWay ≤ 1)
    (active : attempt.isUnderWay = true) :
    ∀ other ∈ before ++ later, other.isUnderWay = false := by
  have none : (before ++ later).countP Attempt.isUnderWay = 0 := by
    rw [List.countP_append, List.countP_cons, if_pos active] at lone
    rw [List.countP_append]
    omega
  intro other member
  simpa using List.countP_eq_zero.mp none other member

/-- A run has finished if it has made a comment. -/
theorem Attempt.finished_of_hasCreated {host : Host} {attempt : Attempt}
    (created : attempt.hasCreated host = true) : ∃ id, attempt.rest = .done id := by
  unfold hasCreated at created
  split at created
  · next id finished => exact ⟨id, finished⟩
  · cases created

/-- A run has made no comment before it has finished. -/
theorem Attempt.not_hasCreated_of_active {host : Host} {attempt : Attempt}
    (active : attempt.isUnderWay = true) : attempt.hasCreated host = false := by
  apply Bool.eq_false_iff.mpr
  intro created
  obtain ⟨id, finished⟩ := finished_of_hasCreated created
  exact (isUnderWay_iff.mp active).1 id finished

namespace Shared

variable {host : Host} {foreign : Github.Comment → Prop} {start world after : World}
  {before later : List Attempt} {attempt next : Attempt} {shared : Shared}

/-- A step after which the run has made no comment leaves no more runs that have. -/
theorem Settled.uncreated (settled : Settled host foreign ⟨world, before ++ attempt :: later⟩)
    (uncreated : next.hasCreated host = false) :
    (before ++ next :: later).countP (Attempt.hasCreated host) ≤ 1 := by
  have created := settled.created
  rw [List.countP_append, List.countP_cons] at created
  rw [List.countP_append, List.countP_cons, uncreated, if_neg Bool.false_ne_true]
  omega

/-- What holds after a step with which comments stay as they are and the run is under way. It
    saw what is there, or saw a comment of its own before. -/
theorem Settled.goOn (settled : Settled host foreign ⟨world, before ++ attempt :: later⟩)
    (lone : (before ++ next :: later).countP Attempt.isUnderWay ≤ 1)
    (active : next.isUnderWay = true) (same : after.comments = world.comments)
    (saw : Apart host foreign →
      (ours host).first? world.comments = (ours host).first? next.seen)
    (begins : (ours host).first? next.seen = none →
      ∀ other ∈ before ++ later, ∀ id, other.rest ≠ .done id) :
    Settled host foreign ⟨after, before ++ next :: later⟩ := by
  have idle := idle_of_lone lone active
  have only : ∀ other ∈ before ++ next :: later, other.isUnderWay = true → other = next := by
    intro other member started
    rcases mem_after_step member with itself | unmoved
    · exact itself
    · exact absurd ((idle other unmoved).symm.trans started) Bool.false_ne_true
  refine ⟨lone, ?_, ?_, ?_, settled.uncreated (Attempt.not_hasCreated_of_active active)⟩
  · intro other member id finished
    rcases mem_after_step member with rfl | unmoved
    · exact absurd finished ((Attempt.isUnderWay_iff.mp active).1 id)
    · rw [same]
      exact settled.finished other (mem_of_unmoved unmoved) id finished
  · intro other member started none another known id finished
    obtain rfl := only other member started
    rcases mem_after_step known with rfl | unmoved
    · exact (Attempt.isUnderWay_iff.mp active).1 id finished
    · exact begins none another unmoved id finished
  · intro other member started apart
    obtain rfl := only other member started
    rw [same]
    exact saw apart

/-- What holds after a run has finished, while no other was under way. -/
theorem Settled.finish {id : Int}
    (settled : Settled host foreign ⟨world, before ++ attempt :: later⟩)
    (active : attempt.isUnderWay = true) (ended : next.rest = .done id)
    (first : ∃ first, (ours host).first? after.comments = some first ∧
      (Apart host foreign → first = id))
    (others : ∀ other ∈ before ++ later, ∀ id, other.rest = .done id →
      ∃ first, (ours host).first? after.comments = some first ∧
        (Apart host foreign → first = id))
    (created : (before ++ next :: later).countP (Attempt.hasCreated host) ≤ 1) :
    Settled host foreign ⟨after, before ++ next :: later⟩ := by
  have idle : ∀ other ∈ before ++ next :: later, other.isUnderWay = false := by
    intro other member
    rcases mem_after_step member with rfl | unmoved
    · exact Attempt.not_isUnderWay_of_done ended
    · exact idle_of_lone settled.lone active other unmoved
  refine ⟨?_, ?_, ?_, ?_, created⟩
  · rw [countP_idle idle]
    exact Nat.zero_le 1
  · intro other member number finished
    rcases mem_after_step member with rfl | unmoved
    · obtain rfl := Dialogue.done.inj (ended.symm.trans finished)
      exact first
    · exact others other unmoved number finished
  · intro other member started
    exact absurd ((idle other member).symm.trans started) Bool.false_ne_true
  · intro other member started
    exact absurd ((idle other member).symm.trans started) Bool.false_ne_true

/-- A run that makes a comment is the first that finishes. -/
theorem Settled.create
    (settled : Settled host foreign ⟨world, before ++ attempt :: later⟩)
    (active : attempt.isUnderWay = true) (ended : next.rest = .done world.nextComment)
    (absent : (ours host).first? attempt.seen = none)
    (made : after.comments = world.comments ++ [⟨world.nextComment, some host.login⟩]) :
    Settled host foreign ⟨after, before ++ next :: later⟩ := by
  -- A run that had finished before would have left a comment for this one to see.
  have unfinished : ∀ other ∈ before ++ later, ∀ id, other.rest ≠ .done id :=
    fun other unmoved => settled.begins attempt (by simp) active absent other
      (mem_of_unmoved unmoved)
  refine settled.finish active ended ?_ ?_ ?_
  · rw [made]
    obtain ⟨first, found⟩ : ∃ first, (ours host).first?
        (world.comments ++ [⟨world.nextComment, some host.login⟩]) = some first := by
      rw [first?_append, first?_made]
      cases (ours host).first? world.comments <;> exact ⟨_, rfl⟩
    refine ⟨first, found, fun apart => ?_⟩
    have none := (settled.underWay attempt (by simp) active apart).trans absent
    rw [first?_append, none, first?_made, Option.none_or] at found
    exact (Option.some.inj found).symm
  · intro other unmoved number finished
    exact absurd finished (unfinished other unmoved number)
  · have none : (before ++ later).countP (Attempt.hasCreated host) = 0 := by
      rw [List.countP_eq_zero]
      intro other unmoved created
      obtain ⟨number, finished⟩ := Attempt.finished_of_hasCreated created
      exact unfinished other unmoved number finished
    rw [List.countP_append] at none
    rw [List.countP_append, List.countP_cons]
    split <;> omega

/-- A run that edits the comment that it holds edits the first of those that are there. -/
theorem Settled.edit {id : Int}
    (settled : Settled host foreign ⟨world, before ++ attempt :: later⟩)
    (active : attempt.isUnderWay = true) (ended : next.rest = .done id)
    (saw : next.seen = attempt.seen) (seen : attempt.seen <+: world.comments)
    (found : (ours host).first? attempt.seen = some id)
    (same : after.comments = world.comments) :
    Settled host foreign ⟨after, before ++ next :: later⟩ := by
  refine settled.finish active ended ?_ ?_ ?_
  · rw [same]
    exact ⟨id, first?_of_prefix seen found, fun _ => rfl⟩
  · intro other unmoved number finished
    rw [same]
    exact settled.finished other (mem_of_unmoved unmoved) number finished
  · have uncreated : next.hasCreated host = false := by
      simp [Attempt.hasCreated, ended, saw, found]
    exact settled.uncreated uncreated

/-- What holds of runs that do not overlap still holds after one of them takes a step. -/
theorem Settled.move (settled : Settled host foreign ⟨world, before ++ attempt :: later⟩)
    (sound : attempt.Sound host world.comments)
    (moves : Attempt.Moves host world attempt after next)
    (lone : (before ++ next :: later).countP Attempt.isUnderWay ≤ 1) :
    Settled host foreign ⟨after, before ++ next :: later⟩ := by
  have step := moves.settled
  cases sound with
  | ready rest calls =>
    rw [rest, ours, Dialogue.keep_new] at step
    obtain ⟨rfl, rfl⟩ := step
    apply settled.goOn lone
    · apply Attempt.isUnderWay_iff.mpr
      exact ⟨fun id => Dialogue.upkeep_ne_done _ _ id, List.concat_ne_nil _ _⟩
    · rfl
    · exact fun _ => rfl
    · intro none other unmoved id finished
      obtain ⟨first, found, -⟩ := settled.finished other (mem_of_unmoved unmoved) id finished
      exact Option.some_ne_none first (found.symm.trans none)
  | free rest seen none calls =>
    rw [rest] at step
    obtain ⟨rfl, rfl, -⟩ := step
    have active : attempt.isUnderWay = true := by simp [Attempt.isUnderWay, rest, calls]
    exact settled.create active rfl none rfl
  | holding rest seen found calls =>
    rw [rest] at step
    obtain ⟨rfl, rfl⟩ := step
    have active : attempt.isUnderWay = true := by simp [Attempt.isUnderWay, rest, calls]
    apply settled.goOn lone
    · apply Attempt.isUnderWay_iff.mpr
      refine ⟨fun id finished => ?_, List.concat_ne_nil _ _⟩
      cases finished
    · rfl
    · exact settled.underWay attempt (by simp) active
    · exact fun none => absurd (found.symm.trans none) (Option.some_ne_none _)
  | located rest seen found calls =>
    rw [rest] at step
    obtain ⟨rfl, rfl⟩ := step
    have active : attempt.isUnderWay = true := by simp [Attempt.isUnderWay, rest, calls]
    exact settled.edit active rfl rfl seen found rfl
  | edited rest | created rest =>
    rw [rest] at step
    exact step.elim

/-- What holds of runs that do not overlap still holds after a step. -/
theorem LoneStep.settled {bodies : List String} {next : Shared}
    (step : LoneStep host foreign shared next) (sound : shared.Sound host start bodies)
    (settled : shared.Settled host foreign) : next.Settled host foreign := by
  obtain ⟨step, lone⟩ := step
  cases step with
  | @moves world after before later attempt next moves =>
    exact settled.move (sound.attempts attempt (by simp)) moves lone
  | @others world attempts comment kind fresh =>
    refine ⟨lone, ?_, settled.begins, ?_, settled.created⟩
    · intro attempt member id finished
      obtain ⟨first, found, same⟩ := settled.finished attempt member id finished
      exact ⟨first, first?_of_prefix (List.prefix_append _ _) found, same⟩
    · intro attempt member active apart
      exact (first?_append_foreign (apart comment kind) world.comments).trans
        (settled.underWay attempt member active apart)
  | numbers number =>
    exact ⟨lone, settled.finished, settled.begins, settled.underWay, settled.created⟩

/-- A run that has not begun is not under way, and has not finished. -/
theorem unbegun (host : Host) (body : String) :
    (Attempt.new host body).isUnderWay = false ∧ ∀ id, (Attempt.new host body).rest ≠ .done id := by
  have rest : (Attempt.new host body).rest = .keep (ours host) body := rfl
  rw [ours, Dialogue.keep_new] at rest
  refine ⟨?_, fun id finished => ?_⟩
  · rw [Attempt.isUnderWay, rest]
    rfl
  · cases rest.symm.trans finished

/-- Of runs that have not begun, none has finished and none is under way. -/
theorem settled_begin (host : Host) (foreign : Github.Comment → Prop) (start : World)
    (bodies : List String) : (Shared.begin host start bodies).Settled host foreign := by
  have new : ∀ attempt ∈ (Shared.begin host start bodies).attempts,
      ∃ body, Attempt.new host body = attempt := by
    intro attempt member
    obtain ⟨body, -, same⟩ := List.mem_map.mp member
    exact ⟨body, same⟩
  have idle : ∀ attempt ∈ (Shared.begin host start bodies).attempts,
      attempt.isUnderWay = false := by
    intro attempt member
    obtain ⟨body, rfl⟩ := new attempt member
    exact (unbegun host body).1
  have unfinished : ∀ attempt ∈ (Shared.begin host start bodies).attempts, ∀ id,
      attempt.rest ≠ .done id := by
    intro attempt member
    obtain ⟨body, rfl⟩ := new attempt member
    exact (unbegun host body).2
  refine ⟨?_, ?_, ?_, ?_, ?_⟩
  · rw [countP_idle idle]
    exact Nat.zero_le 1
  · intro attempt member id finished
    exact absurd finished (unfinished attempt member id)
  · intro attempt member active
    exact absurd ((idle attempt member).symm.trans active) Bool.false_ne_true
  · intro attempt member active
    exact absurd ((idle attempt member).symm.trans active) Bool.false_ne_true
  · have none : (Shared.begin host start bodies).attempts.countP (Attempt.hasCreated host) = 0 := by
      rw [List.countP_eq_zero]
      intro attempt member created
      obtain ⟨id, finished⟩ := Attempt.finished_of_hasCreated created
      exact unfinished attempt member id finished
    rw [none]
    exact Nat.zero_le 1

/-- It holds after any number of steps, as long as no two runs overlap. -/
theorem settled_of_reached {bodies : List String}
    (distinct : (start.comments.map Github.Comment.id).Nodup)
    (reached : Relation.ReflTransGen (LoneStep host foreign) (Shared.begin host start bodies)
      shared) : shared.Sound host start bodies ∧ shared.Settled host foreign := by
  induction reached with
  | refl => exact ⟨sound_begin host bodies distinct, settled_begin host foreign start bodies⟩
  | tail _ step inductionHypothesis =>
    obtain ⟨sound, settled⟩ := inductionHypothesis
    exact ⟨step.1.sound sound, step.settled sound settled⟩

/-- While no other run is under way, the steps of one do not overlap with another. -/
theorem reached_alone {steps : World × Attempt}
    (idle : ∀ other ∈ before ++ later, other.isUnderWay = false)
    (moves : Relation.ReflTransGen (Attempt.MovesOn host) (world, attempt) steps) :
    Relation.ReflTransGen (LoneStep host foreign) ⟨world, before ++ attempt :: later⟩
      ⟨steps.1, before ++ steps.2 :: later⟩ := by
  induction moves with
  | refl => exact .refl
  | tail _ move inductionHypothesis =>
    exact inductionHypothesis.tail ⟨.moves move, lone_of_idle idle _⟩

end Shared

/-! ## Any number of runs -/

/-- The steps are what the program does. Whatever their order, runs edit no comment of another
    author. Each edits the first comment of its own that it saw, or makes one comment if it saw
    none, and where no call is refused nothing keeps it from finishing. Once all have finished
    there are as many new comments as there were runs that saw none. Runs that do not overlap make
    at most one, and all of them end with the same comment if the comments of others are not
    theirs. -/
theorem upsert_interleaved {host : Host} {foreign : Github.Comment → Prop} {start : World}
    {bodies : List String} {shared : Shared}
    (distinct : (start.comments.map Github.Comment.id).Nodup)
    (reached : Relation.ReflTransGen (Shared.Step host foreign) (Shared.begin host start bodies)
      shared) :
    StepsOfProgram host ∧
    shared.attempts.map Attempt.body = bodies ∧
    (∀ attempt ∈ shared.attempts,
      (∃ course, attempt.Course host course ∧ attempt.calls <+: course) ∧
      (∀ id, attempt.rest = .done id → attempt.Ended host shared.world.comments id) ∧
      ((∀ effects call, host.refusal effects call = none) →
        (∀ comment ∈ shared.world.comments, comment.id ≠ shared.world.nextComment) →
        (∀ id, attempt.rest ≠ .done id) →
          ∃ after next, Attempt.Moves host shared.world attempt after next)) ∧
    ∃ done : List Github.Call,
      shared.world.effects = start.effects ++ done.map Effect.github ∧
      done.Perm (shared.attempts.flatMap Attempt.calls) ∧
      (∀ id body, .editComment id body ∈ done → ∀ comment ∈ shared.world.comments,
        comment.id = id → ∀ author, comment.login = some author → author ≠ "" →
          author = host.login) ∧
      ((∀ attempt ∈ shared.attempts, ∃ id, attempt.rest = .done id) →
        done.countP isCreation = shared.attempts.countP fun attempt =>
          ∀ comment ∈ attempt.seen, ¬comment.MayBeOf host.login) ∧
      (Relation.ReflTransGen (Shared.LoneStep host foreign) (Shared.begin host start bodies)
          shared →
        done.countP isCreation ≤ 1 ∧
        (Shared.Apart host foreign →
          ∀ one ∈ shared.attempts, ∀ other ∈ shared.attempts, ∀ id number,
            one.rest = .done id → other.rest = .done number → id = number)) := by
  have sound := Shared.sound_of_reached distinct reached
  obtain ⟨done, made, calls⟩ := sound.calls
  have creations : done.countP isCreation =
      shared.attempts.countP (Attempt.hasCreated host) :=
    (calls.countP_eq isCreation).trans (countP_creations sound.attempts)
  refine ⟨stepsOfProgram host, sound.bodies, ?_, done, made, calls, ?_, ?_, ?_⟩
  · intro attempt member
    have known := sound.attempts attempt member
    exact ⟨known.begins_course, fun id => known.ended, Attempt.exists_moves⟩
  · intro id body edited comment present same author written named
    obtain ⟨attempt, member, own⟩ := List.mem_flatMap.mp (calls.subset edited)
    obtain ⟨seen, first⟩ := (sound.attempts attempt member).edited_first own
    obtain ⟨owned, inside, number, owns⟩ := first.exists_mem
    -- Numbers are distinct, so the comment is the one that the run saw.
    obtain rfl : comment = owned := List.inj_on_of_nodup_map sound.distinct present
      (seen.subset inside) (same.trans number.symm)
    exact owns.author_eq written named
  · intro finished
    rw [creations]
    apply List.countP_congr
    intro attempt member
    obtain ⟨id, ended⟩ := finished attempt member
    simp [Attempt.hasCreated, ended, first?_eq_none_iff]
  · intro alone
    obtain ⟨-, settled⟩ := Shared.settled_of_reached distinct alone
    rw [creations]
    refine ⟨settled.created, ?_⟩
    intro apart one first other second id number ended endedToo
    obtain ⟨held, found, same⟩ := settled.finished one first id ended
    obtain ⟨heldToo, foundToo, sameToo⟩ := settled.finished other second number endedToo
    calc id = held := (same apart).symm
      held = heldToo := Option.some.inj (found.symm.trans foundToo)
      heldToo = number := sameToo apart

/-- Surroundings that refuse no call. -/
def quietHost : Host where
  outcome _ _ := .finished 0 [] []
  openError _ _ := none
  difference _ _ _ := .ok ""
  refusal _ _ := none
  login := "bot"

/-- The comment is of someone else. -/
def ofSomeone (comment : Github.Comment) : Prop :=
  comment.login = some "someone"

/-- A pull request on which someone else has commented. -/
def talkedAbout : World := ⟨⟨[]⟩, [⟨1, some "someone"⟩], 7, "", []⟩

/-- It after a run has fetched. -/
def listedOnce : World := talkedAbout.record (.github .listComments)

/-- It after the run has made its comment. -/
def talkedAboutOnce : World :=
  ⟨⟨[]⟩, [⟨1, some "someone"⟩, ⟨7, some "bot"⟩], 8, "",
    [.github .listComments, .github (.createComment "one")]⟩

/-- It after a second run has fetched. -/
def listedTwice : World := talkedAboutOnce.record (.github .listComments)

/-- It after someone else has commented in between. -/
def talkedAboutMeanwhile : World :=
  { listedTwice with comments := listedTwice.comments ++ [⟨5, some "someone"⟩] }

/-- It after the second run has edited the comment. -/
def talkedAboutTwice : World :=
  ⟨⟨[]⟩, [⟨1, some "someone"⟩, ⟨7, some "bot"⟩, ⟨5, some "someone"⟩], 8, "",
    [.github .listComments, .github (.createComment "one"), .github .listComments,
      .github (.findComment 7), .github (.editComment 7 "two")]⟩

/-- A second run edits the comment that the first has made, and not those of someone else, who adds
    one after this run has fetched. -/
theorem upsert_interleaved_rerun :
    ((ours quietHost).fetch quietHost).run.run talkedAbout =
      (.ok (⟨some "bot", none⟩, none), listedOnce) ∧
    (BotComment.upsert quietHost ⟨some "bot", none⟩ "one").run.run listedOnce =
      (.ok (⟨some "bot", some 7⟩, 7), talkedAboutOnce) ∧
    ((ours quietHost).fetch quietHost).run.run talkedAboutOnce =
      (.ok (⟨some "bot", some 7⟩, some 7), listedTwice) ∧
    (BotComment.upsert quietHost ⟨some "bot", some 7⟩ "two").run.run talkedAboutMeanwhile =
      (.ok (⟨some "bot", some 7⟩, 7), talkedAboutTwice) ∧
    (talkedAbout.comments.map Github.Comment.id).Nodup ∧
    StepsOfProgram quietHost ∧
    ∃ (attempts : List Attempt) (done : List Github.Call),
      Relation.ReflTransGen (Shared.LoneStep quietHost ofSomeone)
        (Shared.begin quietHost talkedAbout ["one", "two"]) ⟨talkedAboutTwice, attempts⟩ ∧
      Relation.ReflTransGen (Shared.Step quietHost ofSomeone)
        (Shared.begin quietHost talkedAbout ["one", "two"]) ⟨talkedAboutTwice, attempts⟩ ∧
      talkedAboutTwice.effects = done.map Effect.github ∧ done.countP isCreation ≤ 1 ∧
      (∀ comment ∈ talkedAboutTwice.comments, ofSomeone comment →
        ∀ body, .editComment comment.id body ∉ done) ∧
      ∀ attempt ∈ attempts, attempt.rest = .done 7 ∧
        attempt.Ended quietHost talkedAboutTwice.comments 7 := by
  have program := stepsOfProgram quietHost
  have firstFetch : ((ours quietHost).fetch quietHost).run.run talkedAbout =
      (.ok (⟨some "bot", none⟩, none), listedOnce) := rfl
  have firstUpsert : (BotComment.upsert quietHost ⟨some "bot", none⟩ "one").run.run listedOnce =
      (.ok (⟨some "bot", some 7⟩, 7), talkedAboutOnce) := rfl
  have secondFetch : ((ours quietHost).fetch quietHost).run.run talkedAboutOnce =
      (.ok (⟨some "bot", some 7⟩, some 7), listedTwice) := rfl
  have secondUpsert :
      (BotComment.upsert quietHost ⟨some "bot", some 7⟩ "two").run.run talkedAboutMeanwhile =
        (.ok (⟨some "bot", some 7⟩, 7), talkedAboutTwice) := rfl
  obtain ⟨fresh, freshLeft, freshBody, firstFetches⟩ :=
    program.begins "one" _ _ _ _ (by decide) firstFetch
  obtain ⟨first, firstEnds, -, firstMakes⟩ :=
    program.ends fresh _ _ _ _ _ (freshBody ▸ freshLeft) (by decide) (freshBody ▸ firstUpsert)
  obtain ⟨second, secondLeft, secondBody, secondFetches⟩ :=
    program.begins "two" _ _ _ _ (by decide) secondFetch
  obtain ⟨last, lastEnds, -, lastEdits⟩ :=
    program.ends second _ _ _ _ _ (secondBody ▸ secondLeft) (by decide)
      (secondBody ▸ secondUpsert)
  have secondIdle : ∀ other ∈ [] ++ [Attempt.new quietHost "two"], other.isUnderWay = false := by
    simp [Shared.unbegun]
  have firstIdle : ∀ other ∈ [first] ++ [], other.isUnderWay = false := by
    simp [Attempt.not_isUnderWay_of_done firstEnds]
  have once : Relation.ReflTransGen (Shared.LoneStep quietHost ofSomeone)
      ⟨talkedAbout, [] ++ .new quietHost "one" :: [.new quietHost "two"]⟩
      ⟨talkedAboutOnce, [] ++ first :: [.new quietHost "two"]⟩ :=
    Shared.reached_alone secondIdle (firstFetches.trans firstMakes)
  have again : Relation.ReflTransGen (Shared.LoneStep quietHost ofSomeone)
      ⟨talkedAboutOnce, [first] ++ .new quietHost "two" :: []⟩
      ⟨listedTwice, [first] ++ second :: []⟩ :=
    Shared.reached_alone firstIdle secondFetches
  have meanwhile : Shared.LoneStep quietHost ofSomeone
      ⟨listedTwice, [first] ++ second :: []⟩ ⟨talkedAboutMeanwhile, [first] ++ second :: []⟩ :=
    ⟨.others rfl (by decide), lone_of_idle firstIdle second⟩
  have twice : Relation.ReflTransGen (Shared.LoneStep quietHost ofSomeone)
      ⟨talkedAboutMeanwhile, [first] ++ second :: []⟩
      ⟨talkedAboutTwice, [first] ++ last :: []⟩ :=
    Shared.reached_alone firstIdle lastEdits
  have lone : Relation.ReflTransGen (Shared.LoneStep quietHost ofSomeone)
      (Shared.begin quietHost talkedAbout ["one", "two"]) ⟨talkedAboutTwice, [first, last]⟩ :=
    once.trans ((again.tail meanwhile).trans twice)
  have reached : Relation.ReflTransGen (Shared.Step quietHost ofSomeone)
      (Shared.begin quietHost talkedAbout ["one", "two"]) ⟨talkedAboutTwice, [first, last]⟩ :=
    Relation.ReflTransGen.mono (fun _ _ step => step.1) _ _ lone
  have distinct : (talkedAbout.comments.map Github.Comment.id).Nodup := by decide
  obtain ⟨stated, -, ended, done, made, -, spared, -, alone⟩ :=
    upsert_interleaved distinct reached
  refine ⟨firstFetch, firstUpsert, secondFetch, secondUpsert, distinct, stated, [first, last], done,
    lone, reached, made, (alone lone).1, ?_, ?_⟩
  · intro comment present someone body edited
    have written := spared comment.id body edited comment present rfl "someone" someone (by decide)
    exact absurd written (by decide)
  · have finished : ∀ attempt ∈ [first, last], attempt.rest = .done 7 := by
      simp [firstEnds, lastEnds]
    intro attempt member
    exact ⟨finished attempt member, (ended attempt member).2.1 7 (finished attempt member)⟩

end LintReview.Upkeep

import LintReview.Proofs.PullRequest.Dialogue
import Mathlib.Logic.Relation

/-!
# The steps of a run that keeps its comment

A run fetches its comment and then keeps it up to date. Each call of its dialogue is a step
(`Attempt.Moves`), and other runs and other users may act between two of them. Where nobody does,
the steps are the sessions themselves (`StepsOfProgram`). The run remembers the comments that it saw
when it fetched. They settle which calls it makes (`Attempt.Course`), and because comments are only
added, the first that was its own stays the first.
-/

namespace LintReview

/-- The comment is of the author, as far as is known: no other author of it is. -/
def Github.Comment.MayBeOf (author : String) (comment : Github.Comment) : Prop :=
  comment.login = none ∨ comment.login = some "" ∨ comment.login = some author

instance (author : String) : DecidablePred (Github.Comment.MayBeOf author) :=
  fun comment => inferInstanceAs
    (Decidable (comment.login = none ∨ comment.login = some "" ∨ comment.login = some author))

/-- The first of the comments that may be of the author has this number. -/
def Github.IsFirstOf (author : String) (comments : List Github.Comment) (id : Int) : Prop :=
  ∃ earlier comment later, comments = earlier ++ comment :: later ∧
    (∀ other ∈ earlier, ¬other.MayBeOf author) ∧ comment.MayBeOf author ∧ comment.id = id

namespace Github

/-- A known author of a comment that may be of somebody is that one. -/
theorem Comment.MayBeOf.author_eq {name author : String} {comment : Comment}
    (own : comment.MayBeOf name) (written : comment.login = some author) (named : author ≠ "") :
    author = name := by
  rcases own with unknown | unnamed | own
  · cases written.symm.trans unknown
  · exact absurd (Option.some.inj (written.symm.trans unnamed)) named
  · exact Option.some.inj (written.symm.trans own)

/-- The first of the comments that may be of the author is one of them. -/
theorem IsFirstOf.exists_mem {author : String} {comments : List Comment} {id : Int}
    (first : IsFirstOf author comments id) :
    ∃ comment ∈ comments, comment.id = id ∧ comment.MayBeOf author := by
  obtain ⟨earlier, comment, later, rfl, -, own, same⟩ := first
  exact ⟨comment, List.mem_append_right _ List.mem_cons_self, same, own⟩

end Github

namespace BotComment

/-- The bot of a run that posts under the name that it is configured with. -/
def ours (host : Host) : BotComment := .new (some host.login)

/-- The bot owns the comments that may be of the author whose name it posts under. -/
theorem owns_iff (host : Host) (comment : Github.Comment) :
    (ours host).owns comment = true ↔ comment.MayBeOf host.login := by
  unfold owns Github.Comment.MayBeOf
  cases comment.login with
  | none => simp
  | some author => simp [ours, BotComment.new]

/-- Which comment the bot takes as its own is said by the authors of the comments. -/
theorem first?_eq_some_iff {host : Host} {comments : List Github.Comment} {id : Int} :
    (ours host).first? comments = some id ↔ Github.IsFirstOf host.login comments id := by
  unfold first? Github.IsFirstOf
  simp only [Option.map_eq_some_iff, List.find?_eq_some_iff_append, Bool.not_eq_true', owns_iff,
    ← Bool.not_eq_true]
  constructor
  · rintro ⟨comment, ⟨own, earlier, later, listed, foreign⟩, same⟩
    exact ⟨earlier, comment, later, listed, foreign, own, same⟩
  · rintro ⟨earlier, comment, later, listed, foreign, own, same⟩
    exact ⟨comment, ⟨own, earlier, later, listed, foreign⟩, same⟩

/-- The bot takes none as its own exactly if all have other authors. -/
theorem first?_eq_none_iff {host : Host} {comments : List Github.Comment} :
    (ours host).first? comments = none ↔
      ∀ comment ∈ comments, ¬comment.MayBeOf host.login := by
  unfold first?
  simp only [Option.map_eq_none_iff, List.find?_eq_none, owns_iff]

/-- The first comment of a longer list is the first of the shorter, if that has one. -/
theorem first?_append (bot : BotComment) (comments others : List Github.Comment) :
    bot.first? (comments ++ others) = (bot.first? comments).or (bot.first? others) := by
  unfold first?
  rw [List.find?_append]
  cases comments.find? bot.owns <;> rfl

/-- As comments are added, the first of the bot's own stays the first. -/
theorem first?_of_prefix {bot : BotComment} {seen comments : List Github.Comment} {id : Int}
    (kept : seen <+: comments) (found : bot.first? seen = some id) :
    bot.first? comments = some id := by
  obtain ⟨others, rfl⟩ := kept
  rw [first?_append, found, Option.some_or]

/-- A comment of someone else is never the first of the bot's own. -/
theorem first?_append_foreign {host : Host} {comment : Github.Comment}
    (foreign : ¬comment.MayBeOf host.login) (comments : List Github.Comment) :
    (ours host).first? (comments ++ [comment]) = (ours host).first? comments := by
  have none : (ours host).first? [comment] = Option.none :=
    first?_eq_none_iff.mpr (List.forall_mem_singleton.mpr foreign)
  rw [first?_append, none, Option.or_none]

/-- The comment that the bot makes is its own. -/
theorem first?_made (host : Host) (id : Int) :
    (ours host).first? [⟨id, some host.login⟩] = some id :=
  first?_eq_some_iff.mpr ⟨[], _, [], rfl, nofun, .inr (.inr rfl), rfl⟩

end BotComment

namespace Upkeep

open BotComment

/-! ## Steps -/

/-- A run that keeps its comment up to date. -/
structure Attempt where
  /-- The text that the comment is to have. -/
  body : String
  /-- What the run has still to do, up to the number of its comment. -/
  rest : Dialogue Int
  /-- The comments that were there when the run fetched. -/
  seen : List Github.Comment
  /-- The calls that the run has made. -/
  calls : List Github.Call

namespace Attempt

/-- A run that has not begun. It is to fetch its comment and then to keep it up to date. -/
def new (host : Host) (body : String) : Attempt := ⟨body, .keep (ours host) body, [], []⟩

/-- The run with what is left of its dialogue, and with the calls that were made between two
    worlds. -/
def moved (attempt : Attempt) (rest : Dialogue Int) (before after : World) : Attempt :=
  { attempt with
    rest := rest
    calls := attempt.calls ++ callsOf (after.effects.drop before.effects.length) }

/-- One step of a run is the next call of its dialogue. It is not refused, and the server gives a
    new comment a number that no other has. -/
inductive Moves (host : Host) : World → Attempt → World → Attempt → Prop where
  | lists {world after : World} {attempt : Attempt} {next : List Github.Comment → Dialogue Int}
      (rest : attempt.rest = .list next)
      (ran : (Session.ask host .listComments).run.run world = (.ok (), after)) :
      Moves host world attempt after
        { attempt.moved (next after.comments) world after with seen := after.comments }
  | creates {world after : World} {attempt : Attempt} {body : String} {next : Int → Dialogue Int}
      {id : Int} (rest : attempt.rest = .create body next)
      (fresh : ∀ comment ∈ world.comments, comment.id ≠ world.nextComment)
      (ran : (BotComment.create host body).run.run world = (.ok id, after)) :
      Moves host world attempt after (attempt.moved (next id) world after)
  | finds {world after : World} {attempt : Attempt} {id : Int} {next : Dialogue Int}
      (rest : attempt.rest = .find id next)
      (ran : (Session.ask host (.findComment id)).run.run world = (.ok (), after)) :
      Moves host world attempt after (attempt.moved next world after)
  | edits {world after : World} {attempt : Attempt} {id : Int} {body : String}
      {next : Dialogue Int} (rest : attempt.rest = .edit id body next)
      (ran : (Session.ask host (.editComment id body)).run.run world = (.ok (), after)) :
      Moves host world attempt after (attempt.moved next world after)

end Attempt

/-! ## What a step does -/

/-- A call that was not refused was made, and nothing else. -/
theorem ask_eq_ok {host : Host} {call : Github.Call} {world after : World}
    (ran : (Session.ask host call).run.run world = (.ok (), after)) :
    after = world.record (.github call) := by
  rw [Session.ask_run] at ran
  exact (Prod.mk.inj ran).2.symm

/-- A comment that was made has the next number, and stands behind all others. -/
theorem create_eq_ok {host : Host} {body : String} {id : Int} {world after : World}
    (ran : (BotComment.create host body).run.run world = (.ok id, after)) :
    id = world.nextComment ∧
      after = (world.withComment host).record (.github (.createComment body)) := by
  rw [Session.create_run] at ran
  split at ran
  · obtain ⟨same, rfl⟩ := Prod.mk.inj ran
    exact ⟨(Except.ok.inj same).symm, rfl⟩
  · cases (Prod.mk.inj ran).1

namespace Attempt

variable {host : Host} {world after : World} {attempt next : Attempt}

/-- The run with what is left of its dialogue after a call. -/
def called (attempt : Attempt) (call : Github.Call) (rest : Dialogue Int) : Attempt :=
  { attempt with rest := rest, calls := attempt.calls ++ [call] }

/-- The calls of a run that has made one more. -/
theorem calls_called {call : Github.Call} {made : List Github.Call}
    (calls : attempt.calls = made) : attempt.calls ++ [call] = made ++ [call] := by
  rw [calls]

/-- A step with which one call was made. -/
theorem moved_eq_called {call : Github.Call} (rest : Dialogue Int)
    (one : after.effects = world.effects ++ [.github call]) :
    attempt.moved rest world after = attempt.called call rest := by
  have behind : callsOf ((world.effects ++ [Effect.github call]).drop world.effects.length) =
      [call] := callsOf_behind world.effects [call]
  rw [moved, called, one, behind]

/-- What a step does is settled by what is left of the dialogue, and by the world. -/
theorem Moves.settled (moves : Moves host world attempt after next) :
    match attempt.rest with
    | .done _ => False
    | .list following =>
      after = world.record (.github .listComments) ∧
        next = { attempt.called .listComments (following world.comments) with
          seen := world.comments }
    | .create body following =>
      after = (world.withComment host).record (.github (.createComment body)) ∧
        next = attempt.called (.createComment body) (following world.nextComment) ∧
        ∀ comment ∈ world.comments, comment.id ≠ world.nextComment
    | .find id following =>
      after = world.record (.github (.findComment id)) ∧
        next = attempt.called (.findComment id) following
    | .edit id body following =>
      after = world.record (.github (.editComment id body)) ∧
        next = attempt.called (.editComment id body) following := by
  cases moves with
  | lists rest ran | finds rest ran | edits rest ran =>
    obtain rfl := ask_eq_ok ran
    rw [rest, moved_eq_called _ rfl]
    exact ⟨rfl, rfl⟩
  | creates rest fresh ran =>
    obtain ⟨rfl, rfl⟩ := create_eq_ok ran
    rw [rest, moved_eq_called _ rfl]
    exact ⟨rfl, rfl, fresh⟩

/-- A step is one call, with which comments stay as they are or one with a new number is
    added. -/
theorem Moves.one_call (moves : Moves host world attempt after next) :
    ∃ call, after.effects = world.effects ++ [.github call] ∧
      next.calls = attempt.calls ++ [call] ∧ next.body = attempt.body ∧
      (after.comments = world.comments ∨
        after.comments = world.comments ++ [⟨world.nextComment, some host.login⟩] ∧
          ∀ comment ∈ world.comments, comment.id ≠ world.nextComment) := by
  cases moves with
  | lists rest ran | finds rest ran | edits rest ran =>
    obtain rfl := ask_eq_ok ran
    rw [moved_eq_called _ rfl]
    exact ⟨_, rfl, rfl, rfl, .inl rfl⟩
  | creates rest fresh ran =>
    obtain ⟨rfl, rfl⟩ := create_eq_ok ran
    rw [moved_eq_called _ rfl]
    exact ⟨_, rfl, rfl, rfl, .inr ⟨rfl, fresh⟩⟩

/-- A step keeps comments and adds at most one. -/
theorem Moves.kept (moves : Moves host world attempt after next) :
    world.comments <+: after.comments := by
  obtain ⟨call, -, -, -, same | ⟨added, -⟩⟩ := moves.one_call
  · exact same ▸ List.prefix_rfl
  · rw [added]
    exact List.prefix_append _ _

/-- A call that is not refused can be made. -/
theorem ask_ok (willing : ∀ effects call, host.refusal effects call = none)
    (call : Github.Call) (world : World) :
    (Session.ask host call).run.run world = (.ok (), world.record (.github call)) := by
  rw [Session.ask_run, willing]

/-- A comment whose call is not refused is made. -/
theorem create_ok (willing : ∀ effects call, host.refusal effects call = none)
    (body : String) (world : World) :
    (BotComment.create host body).run.run world =
      (.ok world.nextComment,
        (world.withComment host).record (.github (.createComment body))) := by
  rw [Session.create_run, willing]

/-- Where no call is refused, a run that has not finished can take its next step. -/
theorem exists_moves (willing : ∀ effects call, host.refusal effects call = none)
    (fresh : ∀ comment ∈ world.comments, comment.id ≠ world.nextComment)
    (unfinished : ∀ id, attempt.rest ≠ .done id) :
    ∃ after next, Moves host world attempt after next := by
  cases rest : attempt.rest with
  | done id => exact absurd rest (unfinished id)
  | list following => exact ⟨_, _, .lists rest (ask_ok willing _ world)⟩
  | create body following => exact ⟨_, _, .creates rest fresh (create_ok willing body world)⟩
  | find id following => exact ⟨_, _, .finds rest (ask_ok willing _ world)⟩
  | edit id body following => exact ⟨_, _, .edits rest (ask_ok willing _ world)⟩

/-! ## Steps in a row -/

/-- One step of a run, as a relation between a world with the run in it and the next. -/
def MovesOn (host : Host) (now next : World × Attempt) : Prop :=
  Moves host now.1 now.2 next.1 next.2

end Attempt

/-- The number of the next comment is higher than all numbers that there are. -/
def NumbersRise (world : World) : Prop :=
  ∀ comment ∈ world.comments, comment.id < world.nextComment

instance (world : World) : Decidable (NumbersRise world) :=
  List.decidableBAll (fun comment : Github.Comment => comment.id < world.nextComment)
    world.comments

/-- A number that is higher is new. -/
theorem NumbersRise.fresh {world : World} (rise : NumbersRise world) :
    ∀ comment ∈ world.comments, comment.id ≠ world.nextComment :=
  fun comment member => Int.ne_of_lt (rise comment member)

/-- Numbers go on to rise after a comment is made. -/
theorem NumbersRise.withComment {world : World} (host : Host) (rise : NumbersRise world) :
    NumbersRise (world.withComment host) := by
  intro comment member
  change comment.id < world.nextComment + 1
  rcases List.mem_append.mp member with known | made
  · have below := rise comment known
    omega
  · obtain rfl := List.mem_singleton.mp made
    exact Int.lt_succ world.nextComment

namespace Attempt

variable {host : Host}

/-- A part of what a run has still to do, done in a row from any world, is steps. What stands
    behind it is left. The induction is on the part; each call changes the world for the next. -/
theorem movesOn_of_run {α : Type} {dialogue : Dialogue α} {next : α → Dialogue Int} {result : α}
    (attempt : Attempt) {world after : World} (rise : NumbersRise world)
    (rest : attempt.rest = dialogue >>= next)
    (ran : (dialogue.run host).run.run world = (.ok result, after)) :
    ∃ further : Attempt, further.rest = next result ∧ further.body = attempt.body ∧
      Relation.ReflTransGen (MovesOn host) (world, attempt) (after, further) := by
  induction dialogue generalizing attempt world with
  | done value =>
    obtain ⟨same, rfl⟩ := Prod.mk.inj ran
    obtain rfl := Except.ok.inj same
    exact ⟨attempt, rest, rfl, .refl⟩
  | list following inductionHypothesis =>
    obtain ⟨_, listed, asked, ran⟩ := Session.run_bind_inv ran
    have step : MovesOn host (world, attempt) (listed, _) := Moves.lists rest asked
    have riseThen : NumbersRise listed := ask_eq_ok asked ▸ rise
    obtain ⟨further, left, same, later⟩ := inductionHypothesis _
      { attempt.moved (following listed.comments >>= next) world listed with
        seen := listed.comments } riseThen rfl ran
    exact ⟨further, left, same, .head step later⟩
  | create text following inductionHypothesis =>
    obtain ⟨number, made, created, ran⟩ := Session.run_bind_inv ran
    have step : MovesOn host (world, attempt) (made, _) :=
      Moves.creates rest rise.fresh created
    have riseThen : NumbersRise made := (create_eq_ok created).2 ▸ rise.withComment host
    obtain ⟨further, left, same, later⟩ := inductionHypothesis _
      (attempt.moved (following number >>= next) world made) riseThen rfl ran
    exact ⟨further, left, same, .head step later⟩
  | find number following inductionHypothesis =>
    obtain ⟨_, found, asked, ran⟩ := Session.run_bind_inv ran
    have step : MovesOn host (world, attempt) (found, _) := Moves.finds rest asked
    have riseThen : NumbersRise found := ask_eq_ok asked ▸ rise
    obtain ⟨further, left, same, later⟩ := inductionHypothesis
      (attempt.moved (following >>= next) world found) riseThen rfl ran
    exact ⟨further, left, same, .head step later⟩
  | edit number text following inductionHypothesis =>
    obtain ⟨_, edited, asked, ran⟩ := Session.run_bind_inv ran
    have step : MovesOn host (world, attempt) (edited, _) := Moves.edits rest asked
    have riseThen : NumbersRise edited := ask_eq_ok asked ▸ rise
    obtain ⟨further, left, same, later⟩ := inductionHypothesis
      (attempt.moved (following >>= next) world edited) riseThen rfl ran
    exact ⟨further, left, same, .head step later⟩

end Attempt

/-- The steps of runs are what the program does. -/
structure StepsOfProgram (host : Host) : Prop where
  /-- The dialogue that fetches is the session that does, in every world. -/
  fetch : ∀ bot : BotComment, (Dialogue.fetch bot).run host = bot.fetch host
  /-- The dialogue that keeps a comment up to date is the session that does, in every world. -/
  upsert : ∀ (bot : BotComment) (body : String),
    (Dialogue.upsert bot body).run host = bot.upsert host body
  /-- A run that fetches takes its first steps. It has then to keep up to date what it fetched. -/
  begins : ∀ (body : String) (bot : BotComment) (found : Option Int) (world after : World),
    NumbersRise world → ((ours host).fetch host).run.run world = (.ok (bot, found), after) →
      ∃ begun : Attempt, begun.rest = .update bot body ∧ begun.body = body ∧
        Relation.ReflTransGen (Attempt.MovesOn host) (world, .new host body) (after, begun)
  /-- A run that keeps up to date what it fetched takes its last steps, in the world after it has
      fetched or in any other. -/
  ends : ∀ (attempt : Attempt) (bot kept : BotComment) (id : Int) (world after : World),
    attempt.rest = .update bot attempt.body → NumbersRise world →
      (bot.upsert host attempt.body).run.run world = (.ok (kept, id), after) →
      ∃ ended : Attempt, ended.rest = .done id ∧ ended.body = attempt.body ∧
        Relation.ReflTransGen (Attempt.MovesOn host) (world, attempt) (after, ended)

/-- The steps of runs are what the program does, whatever the surroundings. -/
theorem stepsOfProgram (host : Host) : StepsOfProgram host where
  fetch := Dialogue.run_fetch host
  upsert := Dialogue.run_upsert host
  begins body bot found world after rise ran := by
    have rest : (Attempt.new host body).rest =
        Dialogue.fetch (ours host) >>= fun fetched => .update fetched.1 body := rfl
    rw [← Dialogue.run_fetch] at ran
    have fetches := Attempt.movesOn_of_run (.new host body) rise rest ran
    exact fetches
  ends attempt bot kept id world after rest rise ran := by
    rw [← Dialogue.run_upsert] at ran
    have finishes := Attempt.movesOn_of_run attempt rise rest ran
    exact finishes

namespace Attempt

variable {host : Host} {attempt : Attempt}

/-! ## What a run has seen settles its calls -/

/-- The calls that a run makes, after it has seen some comments. It edits the first that may be its
    own, or makes one if all have other authors. -/
inductive Course (host : Host) (attempt : Attempt) : List Github.Call → Prop where
  | edits {id : Int} (first : Github.IsFirstOf host.login attempt.seen id) :
      Course host attempt [.listComments, .findComment id, .editComment id attempt.body]
  | creates (foreign : ∀ comment ∈ attempt.seen, ¬comment.MayBeOf host.login) :
      Course host attempt [.listComments, .createComment attempt.body]

/-- How a run ends: it has made all calls of its course, and the comment that it comes to is the
    first that it saw, or one that it made because it saw none. -/
inductive Ended (host : Host) (comments : List Github.Comment) (attempt : Attempt) (id : Int) :
    Prop where
  | edited (first : Github.IsFirstOf host.login attempt.seen id)
      (calls : attempt.calls = [.listComments, .findComment id, .editComment id attempt.body])
  | created (foreign : ∀ comment ∈ attempt.seen, ¬comment.MayBeOf host.login)
      (made : ⟨id, some host.login⟩ ∈ comments)
      (calls : attempt.calls = [.listComments, .createComment attempt.body])

/-- What holds of a run, among the comments on the pull request, at each place of its
    dialogue. -/
inductive Sound (host : Host) (comments : List Github.Comment) (attempt : Attempt) : Prop where
  | ready (rest : attempt.rest = .keep (ours host) attempt.body) (calls : attempt.calls = [])
  | free (rest : attempt.rest = .create attempt.body .done) (seen : attempt.seen <+: comments)
      (none : (ours host).first? attempt.seen = none) (calls : attempt.calls = [.listComments])
  | holding {id : Int} (rest : attempt.rest = .find id (.edit id attempt.body (.done id)))
      (seen : attempt.seen <+: comments) (found : (ours host).first? attempt.seen = some id)
      (calls : attempt.calls = [.listComments])
  | located {id : Int} (rest : attempt.rest = .edit id attempt.body (.done id))
      (seen : attempt.seen <+: comments) (found : (ours host).first? attempt.seen = some id)
      (calls : attempt.calls = [.listComments, .findComment id])
  | edited {id : Int} (rest : attempt.rest = .done id)
      (seen : attempt.seen <+: comments) (found : (ours host).first? attempt.seen = some id)
      (calls : attempt.calls = [.listComments, .findComment id, .editComment id attempt.body])
  | created {id : Int} (rest : attempt.rest = .done id)
      (seen : attempt.seen <+: comments) (none : (ours host).first? attempt.seen = none)
      (made : ⟨id, some host.login⟩ ∈ comments)
      (calls : attempt.calls = [.listComments, .createComment attempt.body])

variable {comments : List Github.Comment}

/-- It goes on to hold when comments are added. -/
theorem Sound.grow {more : List Github.Comment} (sound : attempt.Sound host comments)
    (kept : comments <+: more) : attempt.Sound host more := by
  cases sound with
  | ready rest calls => exact .ready rest calls
  | free rest seen none calls => exact .free rest (seen.trans kept) none calls
  | holding rest seen found calls => exact .holding rest (seen.trans kept) found calls
  | located rest seen found calls => exact .located rest (seen.trans kept) found calls
  | edited rest seen found calls => exact .edited rest (seen.trans kept) found calls
  | created rest seen none made calls =>
    exact .created rest (seen.trans kept) none (kept.subset made) calls

/-- A run that has listed the comments holds the first that may be its own. -/
theorem Sound.listed (calls : attempt.calls = [.listComments])
    (saw : attempt.seen = comments)
    (rest : attempt.rest = .upkeep ((ours host).first? comments) attempt.body) :
    attempt.Sound host comments := by
  have seen : attempt.seen <+: comments := saw ▸ List.prefix_rfl
  cases found : (ours host).first? comments with
  | none =>
    rw [found] at rest
    exact .free rest seen (saw ▸ found) calls
  | some id =>
    rw [found] at rest
    exact .holding rest seen (saw ▸ found) calls

/-- What holds of a run still holds after its step. -/
theorem Moves.sound {world after : World} {next : Attempt}
    (moves : Moves host world attempt after next)
    (sound : attempt.Sound host world.comments) : next.Sound host after.comments := by
  have step := moves.settled
  have kept := moves.kept
  cases sound with
  | ready rest calls =>
    rw [rest, ours, Dialogue.keep_new] at step
    obtain ⟨rfl, rfl⟩ := step
    exact .listed (calls_called calls) rfl rfl
  | free rest seen none calls =>
    rw [rest] at step
    obtain ⟨rfl, rfl, -⟩ := step
    have made : ⟨world.nextComment, some host.login⟩ ∈ (world.withComment host).comments :=
      List.mem_append_right _ (List.mem_singleton_self _)
    exact .created rfl (seen.trans kept) none made (calls_called calls)
  | holding rest seen found calls =>
    rw [rest] at step
    obtain ⟨rfl, rfl⟩ := step
    exact .located rfl seen found (calls_called calls)
  | located rest seen found calls =>
    rw [rest] at step
    obtain ⟨rfl, rfl⟩ := step
    exact .edited rfl seen found (calls_called calls)
  | edited rest | created rest =>
    rw [rest] at step
    exact step.elim

/-- There is a course for whatever a run has seen. -/
theorem exists_course (host : Host) (attempt : Attempt) :
    ∃ course, attempt.Course host course := by
  cases found : (ours host).first? attempt.seen with
  | none => exact ⟨_, .creates (first?_eq_none_iff.mp found)⟩
  | some id => exact ⟨_, .edits (first?_eq_some_iff.mp found)⟩

/-- A run has made a beginning of its course. -/
theorem Sound.begins_course (sound : attempt.Sound host comments) :
    ∃ course, attempt.Course host course ∧ attempt.calls <+: course := by
  cases sound with
  | ready rest calls =>
    obtain ⟨course, planned⟩ := attempt.exists_course host
    exact ⟨course, planned, calls ▸ List.nil_prefix⟩
  | free rest seen none calls =>
    exact ⟨_, .creates (first?_eq_none_iff.mp none), calls ▸ List.prefix_append [_] [_]⟩
  | holding rest seen found calls =>
    exact ⟨_, .edits (first?_eq_some_iff.mp found), calls ▸ List.prefix_append [_] [_, _]⟩
  | located rest seen found calls =>
    exact ⟨_, .edits (first?_eq_some_iff.mp found), calls ▸ List.prefix_append [_, _] [_]⟩
  | edited rest seen found calls =>
    exact ⟨_, .edits (first?_eq_some_iff.mp found), calls ▸ List.prefix_rfl⟩
  | created rest seen none made calls =>
    exact ⟨_, .creates (first?_eq_none_iff.mp none), calls ▸ List.prefix_rfl⟩

/-- A run that has finished has come to the first comment that it saw, or to one that it
    made. -/
theorem Sound.ended {id : Int} (sound : attempt.Sound host comments)
    (finished : attempt.rest = .done id) : attempt.Ended host comments id := by
  cases sound with
  | edited same seen found calls =>
    obtain rfl := Dialogue.done.inj (finished.symm.trans same)
    exact .edited (first?_eq_some_iff.mp found) calls
  | created same seen none made calls =>
    obtain rfl := Dialogue.done.inj (finished.symm.trans same)
    exact .created (first?_eq_none_iff.mp none) made calls
  | ready other | free other | holding other | located other =>
    cases finished.symm.trans other

/-- A comment that a run has edited is the first of its own that it saw. -/
theorem Sound.edited_first {id : Int} {body : String} (sound : attempt.Sound host comments)
    (made : Github.Call.editComment id body ∈ attempt.calls) :
    attempt.seen <+: comments ∧ Github.IsFirstOf host.login attempt.seen id := by
  cases sound with
  | edited rest seen found calls =>
    rw [calls] at made
    simp only [List.mem_cons, List.not_mem_nil, or_false, reduceCtorEq, false_or,
      Github.Call.editComment.injEq] at made
    rw [made.1]
    exact ⟨seen, first?_eq_some_iff.mp found⟩
  | ready rest calls => simp [calls] at made
  | free rest seen none calls => simp [calls] at made
  | holding rest seen found calls => simp [calls] at made
  | located rest seen found calls => simp [calls] at made
  | created rest seen none new calls => simp [calls] at made

/-! ## Comments that are made -/

/-- The run has made a comment. -/
def hasCreated (host : Host) (attempt : Attempt) : Bool :=
  match attempt.rest with
  | .done _ => ((ours host).first? attempt.seen).isNone
  | _ => false

end Attempt

/-- The call makes a comment. -/
def isCreation : Github.Call → Bool
  | .createComment _ => true
  | _ => false

/-- A run makes one comment or none. -/
theorem Attempt.Sound.creations {host : Host} {comments : List Github.Comment}
    {attempt : Attempt} (sound : attempt.Sound host comments) :
    attempt.calls.countP isCreation = if attempt.hasCreated host then 1 else 0 := by
  unfold hasCreated
  cases sound with
  | ready rest calls =>
    rw [rest, calls, ours, Dialogue.keep_new]
    rfl
  | free rest seen none calls => simp [rest, calls, isCreation]
  | holding rest seen found calls => simp [rest, calls, isCreation]
  | located rest seen found calls => simp [rest, calls, isCreation]
  | edited rest seen found calls => simp [rest, calls, isCreation, found]
  | created rest seen none made calls => simp [rest, calls, isCreation, none]

/-- Runs make as many comments as there are runs that have made one. -/
theorem countP_creations {host : Host} {comments : List Github.Comment}
    {attempts : List Attempt} (sound : ∀ attempt ∈ attempts, attempt.Sound host comments) :
    (attempts.flatMap Attempt.calls).countP isCreation =
      attempts.countP (Attempt.hasCreated host) := by
  induction attempts with
  | nil => rfl
  | cons attempt rest inductionHypothesis =>
    obtain ⟨first, others⟩ := List.forall_mem_cons.mp sound
    rw [List.flatMap_cons, List.countP_append, inductionHypothesis others, first.creations,
      List.countP_cons, Nat.add_comm]

end Upkeep

end LintReview

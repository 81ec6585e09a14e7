import LintReview.Proofs.PullRequest.Upkeep

/-!
# A bot that is used again and again

A bot may be asked to fetch its comment and to keep it up to date as often as one likes, in any
order. Between two uses anything may happen on the pull request, and any call may be refused.
What a single use comes to is said once (`Use.Course`). So a bot never lets go of a comment, and
all uses of it together make one at most (`uses_make_one`).
-/

namespace LintReview.BotComment

/-- What a bot is asked to do. -/
inductive Request where
  | fetch
  | upsert (body : String)

/-- Does what is asked, and says which comment it came upon. -/
def Request.serve (host : Host) (bot : BotComment) :
    Request → Session (BotComment × Option Int)
  | .fetch => bot.fetch host
  | .upsert body => do
    let (kept, id) ← bot.upsert host body
    return (kept, some id)

/-- The calls that are made for a request if none is refused. -/
def Request.plan (bot : BotComment) : Request → List Github.Call
  | .fetch => [.listComments]
  | .upsert body =>
    match bot.held with
    | none => [.createComment body]
    | some id => [.findComment id, .editComment id body]

/-- One use of a bot: the bot and the world before it, the answer, and what it has left. -/
structure Use where
  request : Request
  before : BotComment
  start : World
  answer : Except Failure (Option Int)
  after : BotComment
  final : World

namespace Use

/-- The calls that were made. -/
def calls (use : Use) : List Github.Call :=
  callsOf (use.final.effects.drop use.start.effects.length)

/-- The comments that were made. -/
def made (use : Use) : List Github.Comment :=
  use.final.comments.drop use.start.comments.length

/-- A use is what a request comes to. Where it fails there is no new bot, so it is the one from
    before that is used again. -/
inductive Served (host : Host) : Use → Prop where
  | answered {request : Request} {before after : BotComment} {start final : World}
      {found : Option Int}
      (ran : (request.serve host before).run.run start = (.ok (after, found), final)) :
      Served host ⟨request, before, start, .ok found, after, final⟩
  | failed {request : Request} {before : BotComment} {start final : World} {cause : Failure}
      (ran : (request.serve host before).run.run start = (.error cause, final)) :
      Served host ⟨request, before, start, .error cause, before, final⟩

end Use

/-- Uses of a bot, each of the bot that the one before has left. The world may be any other. -/
inductive Uses (host : Host) : BotComment → List Use → BotComment → Prop where
  | unused (bot : BotComment) : Uses host bot [] bot
  | next {use : Use} {uses : List Use} {last : BotComment} (served : use.Served host)
      (later : Uses host use.after uses last) : Uses host use.before (use :: uses) last

/-! ## One use -/

namespace Use

/-- What a use comes to. -/
inductive Course (host : Host) : Use → Prop where
  /-- The first comment that is the bot's own is held from now on. -/
  | adopts {bot : BotComment} {start : World} {earlier later : List Github.Comment}
      {comment : Github.Comment} (listed : start.comments = earlier ++ comment :: later)
      (foreign : ∀ other ∈ earlier, bot.owns other = false) (own : bot.owns comment = true) :
      Course host ⟨.fetch, bot, start, .ok (some comment.id),
        { bot with held := some comment.id }, start.record (.github .listComments)⟩
  /-- No comment is the bot's own. -/
  | misses {bot : BotComment} {start : World}
      (foreign : ∀ comment ∈ start.comments, bot.owns comment = false) :
      Course host ⟨.fetch, bot, start, .ok none, bot, start.record (.github .listComments)⟩
  | creates {bot : BotComment} {start : World} {body : String} (free : bot.held = none) :
      Course host ⟨.upsert body, bot, start, .ok (some start.nextComment),
        { bot with held := some start.nextComment },
        (start.withComment host).record (.github (.createComment body))⟩
  | edits {bot : BotComment} {start : World} {body : String} {id : Int}
      (holds : bot.held = some id) :
      Course host ⟨.upsert body, bot, start, .ok (some id), bot,
        (start.record (.github (.findComment id))).record (.github (.editComment id body))⟩
  /-- A call is refused. Those planned behind it are not made. -/
  | refused {bot : BotComment} {start : World} {request : Request}
      {earlier later : List Github.Call} {call : Github.Call} {refusal : Github.Refusal}
      (planned : request.plan bot = earlier ++ call :: later)
      (refuses : host.refusal (start.effects ++ earlier.map .github) call = some refusal) :
      Course host ⟨request, bot, start, .error (.github refusal), bot,
        { start with effects := start.effects ++ (earlier ++ [call]).map .github }⟩

end Use

/-- What a request comes to is one of these courses. -/
def Request.HasCourse (host : Host) (bot : BotComment) (start : World) (request : Request) : Prop :=
  ∃ answer after final, Use.Course host ⟨request, bot, start, answer, after, final⟩ ∧
    (request.serve host bot).run.run start =
      (answer.map fun found => (after, found), final)

theorem hasCourse_fetch (host : Host) (bot : BotComment) (start : World) :
    Request.fetch.HasCourse host bot start := by
  have ran := fetch_run host bot start
  cases refused : host.refusal start.effects .listComments with
  | some refusal =>
    rw [refused] at ran
    have planned : Request.fetch.plan bot = [] ++ .listComments :: [] := rfl
    exact ⟨_, _, _, .refused planned (by simpa using refused), ran⟩
  | none =>
    rw [refused] at ran
    unfold adopting at ran
    cases found : start.comments.find? bot.owns with
    | none =>
      have foreign : ∀ comment ∈ start.comments, bot.owns comment = false := by
        simpa using found
      rw [first?, found] at ran
      exact ⟨_, _, _, .misses foreign, ran⟩
    | some comment =>
      obtain ⟨own, earlier, later, listed, foreign⟩ := List.find?_eq_some_iff_append.mp found
      have foreign : ∀ other ∈ earlier, bot.owns other = false := by simpa using foreign
      rw [first?, found] at ran
      exact ⟨_, _, _, .adopts listed foreign own, ran⟩

theorem hasCourse_upsert (host : Host) (bot : BotComment) (start : World) (body : String) :
    (Request.upsert body).HasCourse host bot start := by
  cases held : bot.held with
  | none =>
    have planned : (Request.upsert body).plan bot = [] ++ .createComment body :: [] := by
      rw [Request.plan, held]
      rfl
    have ran := upsert_run_free host held body start
    cases refused : host.refusal start.effects (.createComment body) with
    | some refusal =>
      rw [refused] at ran
      exact ⟨_, _, _, .refused planned (by simpa using refused), Session.run_bind_error ran⟩
    | none =>
      rw [refused] at ran
      exact ⟨_, _, _, .creates held, Session.run_bind_ok ran⟩
  | some id =>
    have ran := upsert_run_held host held body start
    dsimp only at ran
    cases refused : host.refusal start.effects (.findComment id) with
    | some refusal =>
      have planned : (Request.upsert body).plan bot =
          [] ++ .findComment id :: [.editComment id body] := by
        rw [Request.plan, held]
        rfl
      rw [refused] at ran
      exact ⟨_, _, _, .refused planned (by simpa using refused), Session.run_bind_error ran⟩
    | none =>
      rw [refused] at ran
      dsimp only at ran
      cases refusedToo : host.refusal (start.record (.github (.findComment id))).effects
          (.editComment id body) with
      | some refusal =>
        have planned : (Request.upsert body).plan bot =
            [.findComment id] ++ .editComment id body :: [] := by
          rw [Request.plan, held]
          rfl
        rw [refusedToo] at ran
        refine ⟨_, _, _, .refused planned refusedToo, (Session.run_bind_error ran).trans ?_⟩
        simp [World.record, Except.map]
      | none =>
        rw [refusedToo] at ran
        exact ⟨_, _, _, .edits held, Session.run_bind_ok ran⟩

/-- A use takes one of these courses. -/
theorem Use.Served.course {host : Host} {use : Use} (served : use.Served host) :
    use.Course host := by
  have hasCourse (request : Request) (bot : BotComment) (start : World) :
      request.HasCourse host bot start := by
    cases request with
    | fetch => exact hasCourse_fetch host bot start
    | upsert body => exact hasCourse_upsert host bot start body
  cases served with
  | @answered request before _ start _ _ ran =>
    obtain ⟨answer, after, final, course, known⟩ := hasCourse request before start
    obtain ⟨answered, rfl⟩ := Prod.mk.inj (ran.symm.trans known)
    cases answer with
    | error cause => cases answered
    | ok found =>
      obtain ⟨rfl, rfl⟩ := Prod.mk.inj (Except.ok.inj answered)
      exact course
  | @failed request before start _ _ ran =>
    obtain ⟨answer, after, final, course, known⟩ := hasCourse request before start
    obtain ⟨answered, rfl⟩ := Prod.mk.inj (ran.symm.trans known)
    cases answer with
    | ok found => cases answered
    | error cause =>
      obtain rfl := Except.error.inj answered
      cases course with
      | refused planned refuses => exact .refused planned refuses

/-! ## A bot that is changed in place -/

/-- A part of a run on a bot that is changed in place. What it has come to hold it holds
    also if a later part fails. -/
abbrev Task := ExceptT Failure (StateM (BotComment × World))

/-- A part of a run that does nothing to the bot. -/
def Task.ofSession {α : Type} (act : Session α) : Task α :=
  ExceptT.mk fun state =>
    let (answer, world) := act.run.run state.2
    (answer, (state.1, world))

/-- Holds a comment from now on. -/
def Task.hold (id : Int) : Task Unit :=
  modify fun state => ({ state.1 with held := some id }, state.2)

/-- Does what is asked, and changes the bot in place as soon as its comment is known. -/
def Request.inPlace (host : Host) : Request → Task (Option Int)
  | .fetch => do
    Task.ofSession (Session.ask host .listComments)
    let (bot, world) ← get
    match bot.first? world.comments with
    | some id =>
      Task.hold id
      return some id
    | none => return none
  | .upsert body => do
    let (bot, _) ← get
    match bot.held with
    | none =>
      let id ← Task.ofSession (create host body)
      Task.hold id
      return some id
    | some id =>
      Task.ofSession (Session.ask host (.findComment id))
      Task.ofSession (Session.ask host (.editComment id body))
      return some id

section InPlace

variable {α β : Type} {act : Session α} {next : α → Task β} {bot : BotComment}
  {world final : World}

/-- A part that does nothing to the bot leaves it as it is, and the world as it would. -/
theorem Task.ofSession_run (act : Session α) (bot : BotComment) (world : World) :
    (Task.ofSession act).run.run (bot, world) =
      ((act.run.run world).1, (bot, (act.run.run world).2)) := rfl

/-- If such a part comes to its end, the next goes on from there with the same bot. -/
theorem Task.ofSession_bind_ok {result : α} (ended : act.run.run world = (.ok result, final)) :
    (Task.ofSession act >>= next).run.run (bot, world) = (next result).run.run (bot, final) := by
  rw [ExceptT.run_bind, StateT.run_bind, ofSession_run, ended]
  rfl

/-- If such a part fails, the next is not begun. -/
theorem Task.ofSession_bind_error {cause : Failure}
    (failed : act.run.run world = (.error cause, final)) :
    (Task.ofSession act >>= next).run.run (bot, world) = (.error cause, (bot, final)) := by
  rw [ExceptT.run_bind, StateT.run_bind, ofSession_run, failed]
  rfl

end InPlace

/-- What a bot and the world are left with that were changed in place, if the bot is returned by a
    part of a run. Where that fails, the bot is the one from before. -/
def Task.outcome (bot : BotComment) :
    Except Failure (BotComment × Option Int) × World →
      Except Failure (Option Int) × BotComment × World
  | (.ok (after, found), final) => (.ok found, (after, final))
  | (.error cause, final) => (.error cause, (bot, final))

/-- Changed in place, the bot is left as it is returned, and as it was if the request fails. -/
theorem Request.inPlace_run (host : Host) (request : Request) (bot : BotComment) (world : World) :
    (request.inPlace host).run.run (bot, world) =
      Task.outcome bot ((request.serve host bot).run.run world) := by
  cases request with
  | fetch =>
    have asked := Session.ask_run host .listComments world
    have ran : (Request.fetch.serve host bot).run.run world = _ := fetch_run host bot world
    rw [ran]
    cases refused : host.refusal world.effects .listComments with
    | some refusal =>
      rw [refused] at asked
      exact Task.ofSession_bind_error asked
    | none =>
      rw [refused] at asked
      rw [Request.inPlace, Task.ofSession_bind_ok asked]
      unfold adopting
      change (match bot.first? world.comments with
        | some id => _
        | none => _ : Task (Option Int)).run.run _ = _
      cases bot.first? world.comments <;> rfl
  | upsert body =>
    change (match bot.held with
      | none => _
      | some id => _ : Task (Option Int)).run.run _ = _
    cases held : bot.held with
    | none =>
      have created := Session.create_run host body world
      have ran := upsert_run_free host held body world
      cases refused : host.refusal world.effects (.createComment body) with
      | some refusal =>
        rw [refused] at created ran
        rw [Request.serve, Session.run_bind_error ran]
        exact Task.ofSession_bind_error created
      | none =>
        rw [refused] at created ran
        rw [Request.serve, Session.run_bind_ok ran]
        exact Task.ofSession_bind_ok created
    | some id =>
      have found := Session.ask_run host (.findComment id) world
      have edited := Session.ask_run host (.editComment id body)
        (world.record (.github (.findComment id)))
      have ran := upsert_run_held host held body world
      dsimp only at ran
      cases refused : host.refusal world.effects (.findComment id) with
      | some refusal =>
        rw [refused] at found ran
        rw [Request.serve, Session.run_bind_error ran]
        exact Task.ofSession_bind_error found
      | none =>
        rw [refused] at found ran
        dsimp only at ran
        cases refusedToo : host.refusal (world.record (.github (.findComment id))).effects
            (.editComment id body) with
        | some refusal =>
          rw [refusedToo] at edited ran
          rw [Request.serve, Session.run_bind_error ran]
          exact (Task.ofSession_bind_ok found).trans (Task.ofSession_bind_error edited)
        | none =>
          rw [refusedToo] at edited ran
          rw [Request.serve, Session.run_bind_ok ran]
          exact (Task.ofSession_bind_ok found).trans (Task.ofSession_bind_ok edited)

/-! ## What is known of a use -/

namespace Use

variable {host : Host} {use : Use}

/-- The bot is left as it would be if it were changed in place. -/
theorem Served.inPlace (served : use.Served host) :
    (use.request.inPlace host).run.run (use.before, use.start) =
      (use.answer, (use.after, use.final)) := by
  cases served with
  | answered ran | failed ran =>
    rw [Request.inPlace_run, ran]
    rfl

/-- A use that leaves the comments as they are has made none. -/
theorem made_eq_nil (same : use.final.comments = use.start.comments) : use.made = [] := by
  rw [made, same, List.drop_length]

/-- If only one call is planned, it is the one that is refused. -/
theorem only_call {planned call : Github.Call} {earlier later : List Github.Call}
    (parts : [planned] = earlier ++ call :: later) : earlier = [] ∧ call = planned := by
  rcases List.cons_eq_append_iff.mp parts with ⟨rfl, same⟩ | ⟨rest, rfl, behind⟩
  · exact ⟨rfl, (List.cons.inj same).1⟩
  · simp at behind

namespace Course

/-- The name under which the bot posts stays the same. -/
theorem login_eq (course : use.Course host) : use.after.login = use.before.login := by
  cases course <;> rfl

/-- A comment that is held is not let go of. -/
theorem holds (course : use.Course host) (held : use.before.held ≠ none) :
    use.after.held ≠ none := by
  cases course with
  | adopts | creates => exact Option.some_ne_none _
  | misses | edits | refused => exact held

/-- Comments are only added. -/
theorem adds (course : use.Course host) :
    use.final.comments = use.start.comments ++ use.made := by
  cases course <;> simp [made, World.record, World.withComment]

/-- A use that fails does nothing to the bot, and makes no comment. -/
theorem failing (course : use.Course host) {cause : Failure} (failed : use.answer = .error cause) :
    use.after = use.before ∧ use.made = [] := by
  cases course with
  | refused => exact ⟨rfl, made_eq_nil rfl⟩
  | adopts | misses | creates | edits => cases failed

/-- To fetch its comment, the bot asks for a list of the comments and for nothing else. -/
theorem calls_fetch (course : use.Course host) (fetches : use.request = .fetch) :
    use.calls = [.listComments] ∧ use.made = [] := by
  cases course with
  | @adopts _ start | @misses _ start =>
    exact ⟨callsOf_behind start.effects [.listComments], made_eq_nil rfl⟩
  | creates | edits => cases fetches
  | @refused _ start _ earlier _ call _ planned =>
    cases fetches
    obtain ⟨rfl, rfl⟩ := only_call planned
    exact ⟨callsOf_behind start.effects [.listComments], made_eq_nil rfl⟩

/-- The comment that is fetched is the first that is the bot's own. Where there is none, the bot
    stays as it is. -/
theorem fetched (course : use.Course host) (fetches : use.request = .fetch) {found : Option Int}
    (answered : use.answer = .ok found) :
    (∃ earlier comment later, use.start.comments = earlier ++ comment :: later ∧
      (∀ other ∈ earlier, use.before.owns other = false) ∧ use.before.owns comment = true ∧
      found = some comment.id ∧ use.after = { use.before with held := some comment.id }) ∨
    (∀ comment ∈ use.start.comments, use.before.owns comment = false) ∧ found = none ∧
      use.after = use.before := by
  cases course with
  | @adopts _ _ earlier later comment listed foreign own =>
    cases answered
    exact .inl ⟨earlier, comment, later, listed, foreign, own, rfl, rfl⟩
  | misses foreign =>
    cases answered
    exact .inr ⟨foreign, rfl, rfl⟩
  | creates | edits => cases fetches
  | refused => cases answered

/-- A bot that holds no comment asks for a new one and for nothing else. -/
theorem calls_create (course : use.Course host) {body : String}
    (upserts : use.request = .upsert body) (free : use.before.held = none) :
    use.calls = [.createComment body] := by
  cases course with
  | adopts | misses => cases upserts
  | @creates _ start =>
    cases upserts
    exact callsOf_behind start.effects [.createComment body]
  | edits held => cases free.symm.trans held
  | @refused _ start _ earlier _ call _ planned =>
    cases upserts
    dsimp only at free
    rw [Request.plan, free] at planned
    obtain ⟨rfl, rfl⟩ := only_call planned
    exact callsOf_behind start.effects [.createComment body]

/-- The comment that is made is held. -/
theorem created (course : use.Course host) {body : String}
    (upserts : use.request = .upsert body) (free : use.before.held = none) {found : Option Int}
    (answered : use.answer = .ok found) :
    ∃ id, found = some id ∧ use.after = { use.before with held := some id } ∧
      use.made = [⟨id, some host.login⟩] := by
  cases course with
  | adopts | misses => cases upserts
  | @creates _ start =>
    cases answered
    refine ⟨start.nextComment, rfl, rfl, ?_⟩
    simp [made, World.record, World.withComment]
  | edits held => cases free.symm.trans held
  | refused => cases answered

/-- A bot that holds a comment asks for this one and then to edit it, and makes none. If nothing is
    refused, it does both. -/
theorem edited (course : use.Course host) {body : String} {id : Int}
    (upserts : use.request = .upsert body) (held : use.before.held = some id) :
    use.after = use.before ∧ use.made = [] ∧
      (use.calls = [.findComment id] ∨ use.calls = [.findComment id, .editComment id body]) ∧
      ∀ found, use.answer = .ok found →
        found = some id ∧ use.calls = [.findComment id, .editComment id body] := by
  cases course with
  | adopts | misses => cases upserts
  | creates free => cases free.symm.trans held
  | @edits _ start _ number holds =>
    cases upserts
    obtain rfl : number = id := Option.some.inj (holds.symm.trans held)
    have calls : callsOf (((start.effects ++ [Effect.github (.findComment number)]) ++
        [Effect.github (.editComment number body)]).drop start.effects.length) =
          [.findComment number, .editComment number body] := by
      rw [List.append_assoc]
      exact callsOf_behind start.effects [.findComment number, .editComment number body]
    refine ⟨rfl, made_eq_nil rfl, .inr calls, ?_⟩
    rintro found ⟨⟩
    exact ⟨rfl, calls⟩
  | @refused _ start _ earlier _ call _ planned =>
    cases upserts
    dsimp only at held
    rw [Request.plan, held] at planned
    have calls := callsOf_behind start.effects (earlier ++ [call])
    refine ⟨rfl, made_eq_nil rfl, ?_, by rintro found ⟨⟩⟩
    rcases List.cons_eq_append_iff.mp planned with ⟨rfl, same⟩ | ⟨rest, rfl, behind⟩
    · obtain ⟨rfl, -⟩ := List.cons.inj same
      exact .inl calls
    · obtain ⟨rfl, rfl⟩ := only_call behind
      exact .inr calls

/-- A use makes no comment, or one if none was held, and holds it. -/
theorem made_one (course : use.Course host) :
    use.made = [] ∨
      use.before.held = none ∧ use.after.held ≠ none ∧ use.made.length = 1 := by
  cases course with
  | adopts | misses | edits | refused => exact .inl (made_eq_nil rfl)
  | creates free =>
    refine .inr ⟨free, Option.some_ne_none _, ?_⟩
    simp [made, World.record, World.withComment]

/-- A use makes a comment exactly if it asks for one and is answered. -/
theorem made_iff (course : use.Course host) :
    use.made ≠ [] ↔
      (∃ body, .createComment body ∈ use.calls) ∧ ∃ found, use.answer = .ok found := by
  cases asked : use.request with
  | fetch =>
    obtain ⟨calls, nothing⟩ := course.calls_fetch asked
    simp [calls, nothing]
  | upsert body =>
    cases held : use.before.held with
    | none =>
      have calls := course.calls_create asked held
      cases answered : use.answer with
      | ok found =>
        obtain ⟨id, -, -, made⟩ := course.created asked held answered
        simp [calls, made]
      | error cause => simp [(course.failing answered).2]
    | some id =>
      obtain ⟨-, nothing, calls | calls, -⟩ := course.edited asked held
      · simp [calls, nothing]
      · simp [calls, nothing]

end Course

/-- What is known of a use. -/
structure Keeps (host : Host) (use : Use) : Prop where
  /-- The bot is left as it would be if it were changed in place. -/
  inPlace : (use.request.inPlace host).run.run (use.before, use.start) =
    (use.answer, (use.after, use.final))
  login : use.after.login = use.before.login
  /-- A comment that is held is not let go of. -/
  holds : use.before.held ≠ none → use.after.held ≠ none
  adds : use.final.comments = use.start.comments ++ use.made
  /-- A comment is made exactly if one is asked for and the call is not refused. -/
  makes : use.made ≠ [] ↔
    (∃ body, .createComment body ∈ use.calls) ∧ ∃ found, use.answer = .ok found
  failing : ∀ cause, use.answer = .error cause → use.after = use.before ∧ use.made = []
  /-- The first comment that is the bot's own is held from now on, if there is one. -/
  fetching : use.request = .fetch → use.calls = [.listComments] ∧ use.made = [] ∧
    ∀ found, use.answer = .ok found →
      (∃ earlier comment later, use.start.comments = earlier ++ comment :: later ∧
        (∀ other ∈ earlier, use.before.owns other = false) ∧ use.before.owns comment = true ∧
        found = some comment.id ∧ use.after = { use.before with held := some comment.id }) ∨
      (∀ comment ∈ use.start.comments, use.before.owns comment = false) ∧ found = none ∧
        use.after = use.before
  /-- Where no comment is held, one is made, and nothing else is asked for. -/
  creating : ∀ body, use.request = .upsert body → use.before.held = none →
    use.calls = [.createComment body] ∧ ∀ found, use.answer = .ok found →
      ∃ id, found = some id ∧ use.after = { use.before with held := some id } ∧
        use.made = [⟨id, some host.login⟩]
  /-- The comment that is held is edited, and nothing else is asked for. -/
  editing : ∀ body id, use.request = .upsert body → use.before.held = some id →
    use.after = use.before ∧ use.made = [] ∧
      (use.calls = [.findComment id] ∨ use.calls = [.findComment id, .editComment id body]) ∧
      ∀ found, use.answer = .ok found →
        found = some id ∧ use.calls = [.findComment id, .editComment id body]

theorem Served.keeps (served : use.Served host) : use.Keeps host where
  inPlace := served.inPlace
  login := served.course.login_eq
  holds := served.course.holds
  adds := served.course.adds
  makes := served.course.made_iff
  failing _ := served.course.failing
  fetching fetches :=
    have known := served.course.calls_fetch fetches
    ⟨known.1, known.2, fun _ => served.course.fetched fetches⟩
  creating _ upserts free :=
    ⟨served.course.calls_create upserts free, fun _ => served.course.created upserts free⟩
  editing _ _ upserts := served.course.edited upserts

end Use

/-! ## Any number of uses -/

namespace Uses

variable {host : Host} {bot last : BotComment} {uses : List Use}

/-- Each use is served. -/
theorem served (used : Uses host bot uses last) : ∀ use ∈ uses, use.Served host := by
  induction used with
  | unused => simp
  | next served _ inductionHypothesis =>
    exact List.forall_mem_cons.mpr ⟨served, inductionHypothesis⟩

/-- The bot keeps its name. -/
theorem login_eq (used : Uses host bot uses last) : ∀ use ∈ uses, use.before.login = bot.login := by
  induction used with
  | unused => simp
  | next served _ inductionHypothesis =>
    refine List.forall_mem_cons.mpr ⟨rfl, fun other member => ?_⟩
    exact (inductionHypothesis other member).trans served.course.login_eq

/-- A bot that holds a comment holds one before every use, and in the end. -/
theorem holds (used : Uses host bot uses last) (held : bot.held ≠ none) :
    (∀ use ∈ uses, use.before.held ≠ none) ∧ last.held ≠ none := by
  induction used with
  | unused => exact ⟨by simp, held⟩
  | next served _ inductionHypothesis =>
    obtain ⟨later, still⟩ := inductionHypothesis (served.course.holds held)
    exact ⟨List.forall_mem_cons.mpr ⟨held, later⟩, still⟩

/-- What a use has left the bot with is not let go of behind it. -/
theorem holds_behind (used : Uses host bot uses last) :
    uses.Pairwise fun earlier later => earlier.after.held ≠ none → later.before.held ≠ none := by
  induction used with
  | unused => exact .nil
  | next _ later inductionHypothesis =>
    exact .cons (fun other member held => (later.holds held).1 other member) inductionHypothesis

/-- Uses of a bot that holds a comment make none. -/
theorem made_eq_nil (used : Uses host bot uses last) (held : bot.held ≠ none) :
    uses.flatMap Use.made = [] := by
  rw [List.flatMap_eq_nil_iff]
  intro use member
  rcases (used.served use member).course.made_one with nothing | ⟨free, -⟩
  · exact nothing
  · exact absurd free ((used.holds held).1 use member)

/-- Uses of a bot make one comment at most. -/
theorem length_made_le (used : Uses host bot uses last) :
    (uses.flatMap Use.made).length ≤ 1 := by
  induction used with
  | unused => exact Nat.zero_le 1
  | @next use uses last served later inductionHypothesis =>
    rw [List.flatMap_cons, List.length_append]
    rcases served.course.made_one with nothing | ⟨-, held, one⟩
    · rw [nothing]
      simpa using inductionHypothesis
    · rw [later.made_eq_nil held, one]
      decide

end Uses

/-- Whatever a bot is asked, in whatever order, whatever is refused, and whatever happens between
    its uses: a comment that it holds is not let go of, and all its uses together make one comment
    at most. It fetches the first that is its own, it makes one only if it holds none, and otherwise
    edits the one that it holds. A use that fails does nothing to it. -/
theorem uses_make_one {host : Host} {login : Option String} {uses : List Use}
    {last : BotComment} (used : Uses host (.new login) uses last) :
    (∀ use ∈ uses, use.Keeps host ∧ use.before.login = login) ∧
      (uses.Pairwise fun earlier later =>
        earlier.after.held ≠ none → later.before.held ≠ none) ∧
      (uses.flatMap Use.made).length ≤ 1 :=
  ⟨fun use member => ⟨(used.served use member).keeps, used.login_eq use member⟩,
    used.holds_behind, used.length_made_le⟩

/-! ## Four uses -/

/-- A host that refuses the first of all calls. -/
def hesitantHost : Host where
  outcome _ _ := .finished 0 [] []
  openError _ _ := none
  difference _ _ _ := .ok ""
  refusal before _ := if before = [] then some ⟨502, none⟩ else none
  login := "bot"

/-- A pull request with some comments, on which some calls were made. -/
def pullRequest (comments : List Github.Comment) (nextComment : Int) (calls : List Github.Call) :
    World := ⟨⟨[]⟩, comments, nextComment, "", calls.map .github⟩

/-- A bot makes its comment at the second attempt. This is gone when it fetches, so it goes on
    with another one. -/
def fourUses : List Use :=
  let free : BotComment := .new (some "bot")
  let listed : List Github.Comment := [⟨5, some "someone"⟩, ⟨9, none⟩, ⟨10, some "bot"⟩]
  let one := pullRequest [] 1 []
  let two := pullRequest [] 1 [.createComment "one"]
  let three := pullRequest listed 11 [.createComment "one", .createComment "one"]
  let four := three.record (.github .listComments)
  [⟨.upsert "one", free, one, .error (.github ⟨502, none⟩), free, two⟩,
    ⟨.upsert "one", free, two, .ok (some 1), { free with held := some 1 },
      pullRequest [⟨1, some "bot"⟩] 2 [.createComment "one", .createComment "one"]⟩,
    ⟨.fetch, { free with held := some 1 }, three, .ok (some 9), { free with held := some 9 }, four⟩,
    ⟨.upsert "two", { free with held := some 9 }, four, .ok (some 9),
      { free with held := some 9 },
      (four.record (.github (.findComment 9))).record (.github (.editComment 9 "two"))⟩]

/-- It makes one comment only. -/
theorem uses_make_one_hesitantly :
    Uses hesitantHost (.new (some "bot")) fourUses ⟨some "bot", some 9⟩ ∧
      fourUses.flatMap Use.calls = [.createComment "one", .createComment "one", .listComments,
        .findComment 9, .editComment 9 "two"] ∧
      (fourUses.flatMap Use.made).length ≤ 1 ∧ fourUses.flatMap Use.made = [⟨1, some "bot"⟩] := by
  have used : Uses hesitantHost (.new (some "bot")) fourUses ⟨some "bot", some 9⟩ :=
    .next (.failed rfl) (.next (.answered rfl) (.next (.answered rfl)
      (.next (.answered rfl) (.unused _))))
  exact ⟨used, rfl, (uses_make_one used).2.2, rfl⟩

end LintReview.BotComment

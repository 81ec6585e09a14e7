import LintReview.Proofs.Host.Traces

/-!
# Keeping one comment

Fetching a comment lists the comments on the pull request and nothing else. After that the
comment is edited if one was found, and made otherwise (`BotComment.upkeep`). Which of the two
it is depends only on the comments at the time of the list.
-/

namespace LintReview.BotComment

variable {host : Host} {bot : BotComment} {world final : World}

/-- The bot after a list of comments: it holds the first that is its own, and what it held
    before if there is none. -/
def adopting (bot : BotComment) (comments : List Github.Comment) : BotComment :=
  match bot.first? comments with
  | some id => { bot with held := some id }
  | none => bot

/-- The effects that keep the comment up to date, once it is known which one is held. -/
def upkeep (held : Option Int) (body : String) : List Effect :=
  match held with
  | none => [.github (.createComment body)]
  | some id => [.github (.findComment id), .github (.editComment id body)]

/-- The calls that stand behind what was done before. -/
theorem callsOf_behind (effects : List Effect) (calls : List Github.Call) :
    callsOf ((effects ++ calls.map Effect.github).drop effects.length) = calls := by
  rw [List.drop_left, callsOf, List.filterMap_map]
  exact List.filterMap_some

/-- A bot that holds nothing holds the first comment of its own after a list. -/
theorem held_adopting (login : Option String) (comments : List Github.Comment) :
    ((BotComment.new login).adopting comments).held =
      (BotComment.new login).first? comments := by
  unfold adopting
  cases found : (BotComment.new login).first? comments <;> rfl

/-- Fetching is one call. It adopts the first comment that is the bot's own. -/
theorem fetch_run (host : Host) (bot : BotComment) (world : World) :
    (bot.fetch host).run.run world =
      (match host.refusal world.effects .listComments with
        | none => .ok (bot.adopting world.comments, bot.first? world.comments)
        | some refusal => .error (.github refusal),
        world.record (.github .listComments)) := by
  have asked := Session.ask_run host .listComments world
  cases refused : host.refusal world.effects .listComments with
  | some refusal =>
    rw [refused] at asked
    exact Session.run_bind_error asked
  | none =>
    rw [refused] at asked
    have found : (get : Session World).run.run (world.record (.github .listComments)) =
        (.ok (world.record (.github .listComments)), world.record (.github .listComments)) := rfl
    rw [fetch, Session.run_bind_ok asked, Session.run_bind_ok found]
    unfold adopting
    change StateT.run (ExceptT.run (match bot.first? world.comments with
      | some id => _
      | none => _)) _ = _
    cases bot.first? world.comments <;> rfl

/-- A bot that holds nothing makes a comment and holds it. -/
theorem upsert_run_free (host : Host) {bot : BotComment} (free : bot.held = none) (body : String)
    (world : World) :
    (bot.upsert host body).run.run world =
      match host.refusal world.effects (.createComment body) with
      | none => (.ok ({ bot with held := some world.nextComment }, world.nextComment),
          (world.withComment host).record (.github (.createComment body)))
      | some refusal => (.error (.github refusal),
          world.record (.github (.createComment body))) := by
  have created := Session.create_run host body world
  rw [upsert, free]
  cases refused : host.refusal world.effects (.createComment body) with
  | none =>
    rw [refused] at created
    exact Session.run_bind_ok created
  | some refusal =>
    rw [refused] at created
    exact Session.run_bind_error created

/-- A bot that holds a comment finds it and edits it, if neither is refused. -/
theorem upsert_run_held (host : Host) {bot : BotComment} {id : Int} (holds : bot.held = some id)
    (body : String) (world : World) :
    (bot.upsert host body).run.run world =
      let found := world.record (.github (.findComment id))
      match host.refusal world.effects (.findComment id) with
      | some refusal => (.error (.github refusal), found)
      | none =>
        (match host.refusal found.effects (.editComment id body) with
          | none => .ok (bot, id)
          | some refusal => .error (.github refusal),
          found.record (.github (.editComment id body))) := by
  have found := Session.ask_run host (.findComment id) world
  have edited := Session.ask_run host (.editComment id body)
    (world.record (.github (.findComment id)))
  rw [upsert, holds]
  dsimp only
  cases refused : host.refusal world.effects (.findComment id) with
  | some refusal =>
    rw [refused] at found
    exact Session.run_bind_error found
  | none =>
    rw [refused] at found
    rw [Session.run_bind_ok found]
    cases refusedToo : host.refusal (world.record (.github (.findComment id))).effects
        (.editComment id body) with
    | some refusal =>
      rw [refusedToo] at edited
      exact Session.run_bind_error edited
    | none =>
      rw [refusedToo] at edited
      exact Session.run_bind_ok edited

theorem fetch_follows (host : Host) (bot : BotComment) (world : World) :
    Session.Follows host [.github .listComments] (bot.fetch host) world := by
  refine .single (fetch_run host bot world) rfl ?_
  intro cause fails
  obtain ⟨refusal, found, rfl⟩ := Option.map_eq_some_iff.mp fails
  rw [World.silent_effects] at found
  rw [found]

/-- Keeping the comment up to date makes one, or finds the one that is held and edits it. -/
theorem upsert_follows (host : Host) (bot : BotComment) (body : String) (world : World) :
    Session.Follows host (upkeep bot.held body) (bot.upsert host body) world := by
  unfold upkeep upsert
  cases bot.held with
  | none =>
    apply (Session.create_follows host body world).bind_quiet
    intro id middle _
    exact .pure _
  | some id =>
    have found : Session.Follows host [.github (.findComment id)]
        (Session.ask host (.findComment id)) world :=
      Session.ask_follows host _ world (by rintro _ ⟨⟩)
    rw [← List.singleton_append]
    apply found.bind
    intro _ middle _
    have edited : Session.Follows host [.github (.editComment id body)]
        (Session.ask host (.editComment id body)) middle :=
      Session.ask_follows host _ middle (by rintro _ ⟨⟩)
    exact edited.bind_quiet fun _ _ _ => .pure _

/-- Fetches the comment, keeps it up to date and says which it is. -/
def keep (host : Host) (bot : BotComment) (body : String) : Session Int := do
  let (fetched, _) ← bot.fetch host
  let (_, id) ← fetched.upsert host body
  return id

/-- Fetching and then keeping the comment up to date, for a bot that holds nothing. -/
theorem keep_follows (host : Host) (login : Option String) (body : String) (world : World) :
    Session.Follows host
      (.github .listComments :: upkeep ((BotComment.new login).first? world.comments) body)
      ((BotComment.new login).keep host body) world := by
  rw [← List.singleton_append]
  apply (fetch_follows host (.new login) world).bind
  intro fetched middle ran
  rw [fetch_run] at ran
  obtain ⟨answered, -⟩ := Prod.mk.inj ran
  have held : fetched.1 = (BotComment.new login).adopting world.comments := by
    split at answered
    · rw [← Except.ok.inj answered]
    · cases answered
  rw [← held_adopting, ← held]
  exact (upsert_follows host fetched.1 body middle).bind_quiet fun _ _ _ => .pure _

end LintReview.BotComment

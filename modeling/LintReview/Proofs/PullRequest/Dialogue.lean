import LintReview.Proofs.PullRequest.Upkeep

/-!
# A run in dialogue with the server

A session is a function of the world that it begins in, and keeps the worlds between its calls to
itself. A `Dialogue` is a session call by call: behind each call stands what is done with the
answer, so that others may act before the next. `Dialogue.run` makes all its calls in a row.

Fetching a comment and keeping it up to date are dialogues. Their runs are the sessions of these
names, whatever the bot holds, whatever is refused and in every world (`Dialogue.run_fetch`,
`Dialogue.run_upsert`).
-/

namespace LintReview

/-- The calls that a part of a run makes, one after the other, and what it comes to. -/
inductive Dialogue (α : Type) where
  | done (result : α)
  /-- Lists the comments, and goes on with those that are there. -/
  | list (next : List Github.Comment → Dialogue α)
  /-- Makes a comment, and goes on with its number. -/
  | create (body : String) (next : Int → Dialogue α)
  | find (id : Int) (next : Dialogue α)
  | edit (id : Int) (body : String) (next : Dialogue α)

namespace Dialogue

variable {α β : Type}

/-- The session that makes all calls in a row. -/
def run (host : Host) : Dialogue α → Session α
  | .done result => return result
  | .list next => do
    Session.ask host .listComments
    run host (next (← get).comments)
  | .create body next => do
    let id ← BotComment.create host body
    run host (next id)
  | .find id next => do
    Session.ask host (.findComment id)
    run host next
  | .edit id body next => do
    Session.ask host (.editComment id body)
    run host next

/-- A dialogue, and behind it one that depends on what it comes to. -/
def andThen (next : α → Dialogue β) : Dialogue α → Dialogue β
  | .done result => next result
  | .list following => .list fun comments => andThen next (following comments)
  | .create body following => .create body fun id => andThen next (following id)
  | .find id following => .find id (andThen next following)
  | .edit id body following => .edit id body (andThen next following)

instance : Monad Dialogue where
  pure := .done
  bind dialogue next := dialogue.andThen next

/-- To fetch its comment, a bot lists the comments and adopts the first of its own. -/
def fetch (bot : BotComment) : Dialogue (BotComment × Option Int) :=
  .list fun comments =>
    match bot.first? comments with
    | some id => .done ({ bot with held := some id }, some id)
    | none => .done (bot, none)

/-- A bot finds and edits the comment that it holds, or makes one. -/
def upsert (bot : BotComment) (body : String) : Dialogue (BotComment × Int) :=
  match bot.held with
  | none => .create body fun id => .done ({ bot with held := some id }, id)
  | some id => .find id (.edit id body (.done (bot, id)))

/-- A bot keeps its comment up to date, and says which it is. -/
def update (bot : BotComment) (body : String) : Dialogue Int := do
  let (_, id) ← upsert bot body
  return id

/-- A bot fetches its comment and then keeps it up to date. -/
def keep (bot : BotComment) (body : String) : Dialogue Int := do
  let (fetched, _) ← fetch bot
  update fetched body

/-- The dialogue that fetches a comment is the session that does. -/
theorem run_fetch (host : Host) (bot : BotComment) : (fetch bot).run host = bot.fetch host := by
  unfold fetch BotComment.fetch
  simp only [run]
  congr 1
  funext _
  congr 1
  funext world
  cases bot.first? world.comments <;> rfl

/-- The dialogue that keeps a comment up to date is the session that does. -/
theorem run_upsert (host : Host) (bot : BotComment) (body : String) :
    (upsert bot body).run host = bot.upsert host body := by
  unfold upsert BotComment.upsert
  cases bot.held <;> simp only [run]

/-- What is left to do to keep the comment up to date, once it is known which one is held. -/
def upkeep (held : Option Int) (body : String) : Dialogue Int :=
  match held with
  | none => .create body .done
  | some id => .find id (.edit id body (.done id))

/-- A bot that holds nothing lists the comments, and goes on by the first of its own. -/
theorem keep_new (login : Option String) (body : String) :
    keep (.new login) body =
      .list fun comments => upkeep ((BotComment.new login).first? comments) body := by
  change Dialogue.list _ = _
  congr 1
  funext comments
  beta_reduce
  cases (BotComment.new login).first? comments <;> rfl

/-- Whichever comment is held, something is left to do. -/
theorem upkeep_ne_done (held : Option Int) (body : String) (id : Int) :
    upkeep held body ≠ .done id := by
  intro finished
  cases held <;> cases finished

end Dialogue

end LintReview

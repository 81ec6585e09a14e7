import LintReview.Host.Session

/-!
# The comment of a run

A run keeps one comment on the pull request. It adopts the first comment that is its own
and edits it from then on; where there is none, it makes one and remembers it. A comment
whose author is not known counts as its own, because editing it is better than making a
second one. A comment that is held is never let go.
-/

namespace LintReview

/-- What a run knows of its comment. -/
structure BotComment where
  /-- The name under which the run posts. Nobody posts under no name. -/
  login : Option String
  /-- The comment that the run holds. -/
  held : Option Int
  deriving Repr, DecidableEq

namespace BotComment

/-- A run that holds no comment. -/
def new (login : Option String) : BotComment := ⟨login, none⟩

/-- The comment is the run's own. -/
def owns (bot : BotComment) (comment : Github.Comment) : Bool :=
  match comment.login with
  | none => true
  | some author => author = "" || some author = bot.login

/-- The first of the comments that is the run's own. -/
def first? (bot : BotComment) (comments : List Github.Comment) : Option Int :=
  (comments.find? bot.owns).map Github.Comment.id

/-- Adopts the first comment on the pull request that is the run's own, and says which. -/
def fetch (host : Host) (bot : BotComment) : Session (BotComment × Option Int) := do
  Session.ask host .listComments
  match bot.first? (← get).comments with
  | some id => return ({ bot with held := some id }, some id)
  | none => return (bot, none)

/-- Makes a comment on the pull request. -/
def create (host : Host) (body : String) : Session Int := do
  Session.ask host (.createComment body)
  let world ← get
  let made : Github.Comment := ⟨world.nextComment, some host.login⟩
  set { world with comments := world.comments ++ [made], nextComment := world.nextComment + 1 }
  return made.id

/-- Edits the comment that is held, or makes one. -/
def upsert (host : Host) (bot : BotComment) (body : String) : Session (BotComment × Int) := do
  match bot.held with
  | none =>
    let id ← create host body
    return ({ bot with held := some id }, id)
  | some id =>
    Session.ask host (.findComment id)
    Session.ask host (.editComment id body)
    return (bot, id)

end BotComment

end LintReview

import LintReview.Host.Session
import LintReview.Text.Blank

/-!
# The token for the server

The token is taken from the environment or, failing that, from a session of the server's
own program. That there is none is no failure: a run that does not post needs no token.
-/

namespace LintReview.Token

/-- The launch that asks for the token of a session. -/
def request : Launch := ⟨"gh", ["auth", "token"], none⟩

/-- The token that the server's program wrote. -/
def ofOutput (exitCode : Int) (output errorOutput : List UInt8) : Except Failure (Option String) :=
  match Text.decode? output, Text.decode? errorOutput with
  | some text, some _ =>
    let token := Text.trim (Text.unifyNewlines text)
    .ok (if exitCode = 0 && !token.isEmpty then some (String.ofList token) else none)
  | _, _ => .error .encoding

/-- The token, from what the environment gives. -/
def resolve (host : Host) (given : Option String) : Session (Option String) := do
  match given.filter (· ≠ "") with
  | some token => return some token
  | none =>
    match ← Session.launch host request with
    | .failed .missing | .failed .timedOut => return none
    | .failed cause => throw (.launch cause request)
    | .finished exitCode output errorOutput => liftM (ofOutput exitCode output errorOutput)

end LintReview.Token

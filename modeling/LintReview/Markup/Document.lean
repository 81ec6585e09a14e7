import LintReview.Markup.Content
import LintReview.Markup.Encoding
import LintReview.Markup.Prolog.Grammar

/-!
# Documents

A document is a prolog, one element, and asides after it. A byte order mark may stand in
front.
-/

namespace LintReview.Markup

/-- Reads a document without a byte order mark. -/
def readMarked (text : List Char) : Except Failure Element :=
  match Prolog.read text with
  | .error failure => .error failure
  | .ok (definitions, fromElement) =>
    match definitions.readElement fromElement with
    | .error failure => .error failure
    | .ok (element, after) =>
      match Prolog.checkEnding after with
      | .error failure => .error failure
      | .ok () => .ok element

/-- Reads a document, and gives a failure with the text in which it is located. A lone
    zero byte might be half a unit, so it is refused as a token that does not end. -/
def read (text : List Char) : Except (Failure × List Char) Element :=
  let whole := repaired text
  let result : Except Failure Element :=
    match text, whole with
    | ['\x00'], _ => .error ⟨.unclosedToken, whole⟩
    | _, '\ufeff' :: rest => readMarked rest
    | _, _ => readMarked whole
  result.mapError (·, whole)

end LintReview.Markup

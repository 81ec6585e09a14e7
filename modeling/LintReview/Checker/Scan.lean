import LintReview.Checker.Report

/-!
# Scanning files

Files are taken in order. A file that is not selected is ignored; any other is checked,
and its result goes into the report. If the scan is to stop early, the first file that
fails is the last that is looked at. Where selecting or checking a file fails altogether,
the report stays as the files before have made it.
-/

namespace LintReview

variable {ε σ : Type}

/-- Scans files: the report afterwards, and whether the scan came to its end. -/
def scan (selects : String → Except ε Bool)
    (check : String → ExceptT ε (StateM σ) FileResult) (stopsEarly : Bool) :
    List String → Report → StateM σ (Report × Except ε Unit)
  | [], report => pure (report, .ok ())
  | file :: rest, report =>
    match selects file with
    | .error cause => pure (report, .error cause)
    | .ok false => scan selects check stopsEarly rest (report.ignore file)
    | .ok true => do
      match ← (check file).run with
      | .error cause => pure (report, .error cause)
      | .ok result =>
        let next := report.add file result
        if !result.passed && stopsEarly then pure ({ next with stoppedEarly := true }, .ok ())
        else scan selects check stopsEarly rest next

end LintReview

import LintReview.CommandLine.Basic
import LintReview.Proofs.Host.Traces

/-!
# Which arguments ask for a run

Arguments ask for a run if they are read, nothing but the path of the configuration stands in
front of the command, and the command is given its options and no operand (`AsksForRun`). The
program then does what the request says (`start_of_asked`). All other arguments are answered
with a text or refused, and nothing else happens (`execute_unasked`).
-/

namespace LintReview.CommandLine

/-- The arguments ask for a run, with its configuration at a path. -/
def AsksForRun (bindings : List (String × String)) (arguments : List String) (path : String)
    (request : RunRequest) : Prop :=
  ∃ given rest options,
    topGrammar.read arguments = .ok (given, "run" :: rest) ∧
    (∀ option ∈ given, option.target = .config) ∧
    path = configPathOf given bindings ∧
    runGrammar.read rest = .ok (options, []) ∧
    (∀ option ∈ options, option.target ≠ .help) ∧
    RunRequest.ofGiven options = .ok request

section Asked

variable {bindings : List (String × String)} {arguments : List String} {path : String}
  {request : RunRequest}

/-- If neither the version nor help is asked for, the options in front of a command are what
    is read. -/
theorem readTop_of_configs {given : List (Given TopParameter)} {operands : List String}
    (read : topGrammar.read arguments = .ok (given, operands))
    (configs : ∀ option ∈ given, option.target = .config) :
    readTop arguments = pure (given, operands) := by
  have none : (given.map Given.target).find? (· ≠ .config) = none := by
    rw [List.find?_eq_none]
    intro target member
    obtain ⟨option, known, rfl⟩ := List.mem_map.mp member
    simp [configs option known]
  unfold readTop
  rw [read]
  dsimp only
  rw [none]

/-- Arguments that ask for a run are answered with the run. -/
theorem start_of_asked (host : Host) (asked : AsksForRun bindings arguments path request) :
    start host bindings arguments = perform host bindings path request := by
  obtain ⟨given, rest, options, readFirst, configs, rfl, readThen, unhelped, made⟩ := asked
  have nonempty : ¬ arguments.isEmpty := by
    intro empty
    obtain rfl := List.isEmpty_iff.mp empty
    cases readFirst
  have noHelp : ¬ (options.any fun option => option.target = .help) := by
    intro found
    obtain ⟨option, member, helps⟩ := List.any_eq_true.mp found
    exact unhelped option member (of_decide_eq_true helps)
  have wanted : requestOf options [] = pure request := by
    rw [requestOf, made]
    rfl
  unfold start
  rw [if_neg nonempty, readTop_of_configs readFirst configs, pure_bind]
  dsimp only
  rw [if_pos rfl]
  unfold runCommand
  rw [readThen]
  dsimp only
  rw [if_neg noHelp, wanted, pure_bind]

end Asked

/-! ## Arguments that ask for something else -/

/-- The command was answered with a text, or it was called wrongly. -/
def Ending.Declines (ending : Ending) : Prop := ending.exitCode = 0 ∨ ending.exitCode = 2

/-- Nothing happens but that a text is printed. What is given back is known, and a command that
    ends does so without a run. -/
def Step.OnlyPrints {α : Type} (act : Step α) (known : α → Prop) : Prop :=
  ∀ world, ∃ outcome shown, act.run.run world = (outcome, { world with console := shown }) ∧
    match outcome with
    | .ok value => known value
    | .error ending => ending.Declines

namespace Step.OnlyPrints

variable {α β : Type} {act : Step α} {next : α → Step β} {known : α → Prop} {knownNext : β → Prop}

theorem pure {value : α} (holds : known value) : OnlyPrints (Pure.pure value) known := by
  intro world
  exact ⟨.ok value, world.console, rfl, holds⟩

theorem misused (command : Command) (misuse : Misuse) :
    OnlyPrints (throw (.misused command misuse)) known := by
  intro world
  exact ⟨.error (.misused command misuse), world.console, rfl, .inr rfl⟩

/-- A text is printed, and with it the command is finished. -/
theorem answered (text : String) :
    OnlyPrints (Step.print text >>= fun _ => throw (.finished 0)) known := by
  intro world
  exact ⟨.error (.finished 0), world.console ++ text, rfl, .inl rfl⟩

theorem bind (begins : OnlyPrints act known)
    (goesOn : ∀ value, known value → OnlyPrints (next value) knownNext) :
    OnlyPrints (act >>= next) knownNext := by
  intro world
  obtain ⟨outcome, shown, ran, ended⟩ := begins world
  cases outcome with
  | error ending => exact ⟨.error ending, shown, Session.run_bind_error ran, ended⟩
  | ok value =>
    obtain ⟨last, printed, ranThen, endedThen⟩ := goesOn value ended { world with console := shown }
    exact ⟨last, printed, (Session.run_bind_ok ran).trans ranThen, endedThen⟩

end Step.OnlyPrints

/-- What stands in front of a command is read if it is nothing but the path of the
    configuration. -/
theorem readTop_onlyPrints (arguments : List String) :
    (readTop arguments).OnlyPrints fun (given, operands) =>
      topGrammar.read arguments = .ok (given, operands) ∧
        ∀ option ∈ given, option.target = .config := by
  unfold readTop
  cases topGrammar.read arguments with
  | error cause => exact .misused _ _
  | ok both =>
    obtain ⟨given, operands⟩ := both
    dsimp only
    split
    · exact .answered _
    · exact .answered _
    · next noVersion noHelp =>
      refine .pure ⟨rfl, fun option member => ?_⟩
      -- the first target that is no path would have been one of the two others
      by_contra other
      obtain ⟨first, found⟩ :
          ∃ first, (given.map Given.target).find? (· ≠ .config) = some first := by
        rw [← Option.isSome_iff_exists, List.find?_isSome]
        exact ⟨option.target, List.mem_map_of_mem member, by simpa using other⟩
      have unlike := List.find?_some found
      cases first with
      | version => exact noVersion found
      | help => exact noHelp found
      | config => cases unlike

/-- A command with arguments that ask for no run is answered with a text or refused. -/
theorem runCommand_onlyPrints (host : Host) (bindings : List (String × String)) (path : String)
    {arguments : List String}
    (unasked : ∀ options, runGrammar.read arguments = .ok (options, []) →
      (∀ option ∈ options, option.target ≠ .help) →
        ∀ request, RunRequest.ofGiven options ≠ .ok request) :
    (runCommand host bindings path arguments).OnlyPrints Ending.Declines := by
  unfold runCommand
  cases read : runGrammar.read arguments with
  | error cause => exact .misused _ _
  | ok both =>
    obtain ⟨options, operands⟩ := both
    dsimp only
    split
    · intro world
      exact ⟨_, _, rfl, .inl rfl⟩
    · next unhelped =>
      have noHelp : ∀ option ∈ options, option.target ≠ .help := by
        simpa using unhelped
      have refused : (requestOf options operands).OnlyPrints fun _ => False := by
        unfold requestOf
        cases made : RunRequest.ofGiven options with
        | error cause => exact .misused _ _
        | ok request =>
          cases operands with
          | nil => exact absurd made (unasked options read noHelp request)
          | cons operand others => exact .misused _ _
      exact refused.bind (by rintro _ ⟨⟩)

/-- Arguments that ask for no run are answered with a text or refused. -/
theorem start_unasked (host : Host) {bindings : List (String × String)} {arguments : List String}
    (unasked : ∀ path request, ¬ AsksForRun bindings arguments path request) :
    (start host bindings arguments).OnlyPrints Ending.Declines := by
  unfold start
  split
  · exact .pure (.inr rfl)
  · refine (readTop_onlyPrints arguments).bind ?_
    rintro ⟨given, operands⟩ ⟨read, configs⟩
    cases operands with
    | nil => exact .misused _ _
    | cons name rest =>
      dsimp only
      split
      · next named =>
        subst named
        apply runCommand_onlyPrints
        intro options readThen noHelp request made
        exact unasked _ request ⟨given, rest, options, read, configs, rfl, readThen, noHelp, made⟩
      · exact (readTop_onlyPrints _).bind fun _ _ => .misused _ _

/-! ## The program -/

/-- The way in which a command ended, early or not. -/
def Ending.ofOutcome : Except Ending Ending → Ending
  | .ok ending | .error ending => ending

/-- The program ends as its start does. -/
theorem execute_of_start {host : Host} {bindings : List (String × String)}
    {arguments : List String} {world final : World} {outcome : Except Ending Ending}
    (ran : (start host bindings arguments).run.run world = (outcome, final)) :
    (execute host bindings arguments).run world = (.ofOutcome outcome, final) := by
  unfold execute
  rw [StateT.run_bind, ran]
  cases outcome <;> rfl

/-- Arguments that ask for no run change nothing but what is printed. -/
theorem execute_unasked (host : Host) {bindings : List (String × String)}
    {arguments : List String}
    (unasked : ∀ path request, ¬ AsksForRun bindings arguments path request) (world : World) :
    ∃ ending shown, ending.Declines ∧
      (execute host bindings arguments).run world =
        (ending, { world with console := shown }) := by
  obtain ⟨outcome, shown, ran, ended⟩ := start_unasked host unasked world
  refine ⟨.ofOutcome outcome, shown, ?_, execute_of_start ran⟩
  cases outcome with
  | ok ending => exact ended
  | error ending => exact ended

end LintReview.CommandLine

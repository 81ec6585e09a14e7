import LintReview.CommandLine.Similar

/-!
# Reading arguments

The arguments of a command are options and operands. An option begins with a hyphen. Its
value, if it has one, follows an equals sign or is the next argument, whatever that looks
like. Two hyphens alone end the options. Some commands take options only in front of the
first operand, others in any place.
-/

namespace LintReview.CommandLine

/-- What belongs to an option. -/
inductive Form where
  /-- The option has a value, for which the placeholder stands. -/
  | value (placeholder : String)
  /-- The option turns something on, and another name turns it off. -/
  | switch (opposite : String)
  /-- The option stands alone. -/
  | plain
  deriving Repr, DecidableEq

/-- An option that a command takes. -/
structure OptionSpec (α : Type) where
  /-- What the option sets. -/
  target : α
  name : String
  form : Form
  /-- What the help says of the option. -/
  help : String
  deriving Repr, DecidableEq

/-- What is given for an option. -/
inductive Value where
  | text (text : String)
  | switch (isOn : Bool)
  deriving Repr, DecidableEq

/-- An option that is given. -/
structure Given (α : Type) where
  target : α
  value : Value
  deriving Repr, DecidableEq

/-- Why arguments are not read. -/
inductive ArgumentError where
  | unknownOption (name : String) (similar : List String)
  | needsValue (name : String)
  | takesNoValue (name : String)
  deriving Repr, DecidableEq

/-- What an argument is. -/
inductive Argument (α : Type) where
  | operand
  | option (given : Given α)
  /-- An option whose value is the next argument. -/
  | optionWithNext (target : α) (name : String)
  deriving Repr, DecidableEq

namespace OptionSpec

variable {α : Type}

/-- The names of an option. -/
def names (spec : OptionSpec α) : List String :=
  match spec.form with
  | .switch opposite => [spec.name, opposite]
  | _ => [spec.name]

/-- An option with a name of its own, as it is given with or without a value after an equals
    sign. -/
def given (spec : OptionSpec α) (name : String) (value : Option String) :
    Except ArgumentError (Argument α) :=
  match spec.form, value with
  | .value _, some text => .ok (.option ⟨spec.target, .text text⟩)
  | .value _, none => .ok (.optionWithNext spec.target name)
  | _, some _ => .error (.takesNoValue name)
  | _, none => .ok (.option ⟨spec.target, .switch (name = spec.name)⟩)

end OptionSpec

/-- The options that a command takes. -/
structure Grammar (α : Type) where
  options : List (OptionSpec α)
  /-- Options may follow operands. -/
  isMixed : Bool

namespace Grammar

variable {α : Type}

/-- The names of all options. -/
def names (grammar : Grammar α) : List String := grammar.options.flatMap OptionSpec.names

/-- The error for an option that there is not. After a single hyphen only the first letter
    counts. -/
def unknown (grammar : Grammar α) (argument name : List Char) : ArgumentError :=
  match argument with
  | '-' :: '-' :: _ =>
    let name := String.ofList name
    .unknownOption name (similarNames grammar.names name)
  | _ => .unknownOption (String.ofList (argument.take 2)) []

/-- What an argument is. -/
def argumentOf (grammar : Grammar α) (argument : String) : Except ArgumentError (Argument α) :=
  match argument.toList with
  | '-' :: letter :: rest =>
    let whole := '-' :: letter :: rest
    let name := whole.takeWhile (· ≠ '=')
    let value := ((whole.dropWhile (· ≠ '=')).tail?).map String.ofList
    match grammar.options.find? fun spec => String.ofList name ∈ spec.names with
    | some spec => spec.given (String.ofList name) value
    | none => .error (grammar.unknown whole name)
  | _ => .ok .operand

/-- The options and the operands among arguments. -/
def read (grammar : Grammar α) :
    List String → Except ArgumentError (List (Given α) × List String)
  | [] => .ok ([], [])
  | argument :: rest =>
    if argument = "--" then .ok ([], rest)
    else
      match grammar.argumentOf argument with
      | .error cause => .error cause
      | .ok .operand =>
        if grammar.isMixed then
          (read grammar rest).map fun (options, operands) => (options, argument :: operands)
        else .ok ([], argument :: rest)
      | .ok (.option given) =>
        (read grammar rest).map fun (options, operands) => (given :: options, operands)
      | .ok (.optionWithNext target name) =>
        match rest with
        | [] => .error (.needsValue name)
        | text :: others =>
          (read grammar others).map fun (options, operands) =>
            (⟨target, .text text⟩ :: options, operands)

end Grammar

/-- What is given last for an option. -/
def lastValue? {α : Type} [DecidableEq α] (options : List (Given α)) (target : α) : Option Value :=
  (options.reverse.find? fun given => given.target = target).map Given.value

/-- The text that is given last for an option. -/
def lastText? {α : Type} [DecidableEq α] (options : List (Given α)) (target : α) : Option String :=
  match lastValue? options target with
  | some (.text text) => some text
  | _ => none

/-- Whether an option was last turned on or off. -/
def lastSwitch? {α : Type} [DecidableEq α] (options : List (Given α)) (target : α) : Option Bool :=
  match lastValue? options target with
  | some (.switch isOn) => some isOn
  | _ => none

end LintReview.CommandLine

import LintReview.Setting
import LintReview.Text.Numeral
import LintReview.Yaml.Node

/-!
# A document as a setting

The tag of a node says which kind of setting it gives. The entry of a mapping whose key
is the mark of a merge brings in the entries of another mapping, which the mapping's own
entries override; of several merged mappings the earlier ones override the later.
-/

namespace LintReview.Yaml

/-- Why a document gives no setting. -/
inductive Error where
  /-- The text is no document, or a node does not fit its tag. -/
  | malformed
  /-- A scalar has no value of the kind that its tag asks for. -/
  | value (message : String)
  /-- A truth value is written with an unknown word. -/
  | truthWord
  /-- A time is not written as one. -/
  | time
  deriving Repr, DecidableEq

/-- A scalar without its underscores. -/
def withoutGaps (text : List Char) : List Char := text.filter (· ≠ '_')

/-- The sign of a number, and the rest of it. -/
def signOf (text : List Char) : Bool × List Char :=
  match text with
  | '-' :: rest => (true, rest)
  | '+' :: rest => (false, rest)
  | _ => (false, text)

/-- The natural number that digits denote in a base of at most sixteen. -/
def numberInBase (base : Nat) (digits : List Char) : Except Error Nat :=
  let values := digits.filterMap fun digit => (hexDigit? digit).filter (· < base)
  if values.length = digits.length && !digits.isEmpty then
    .ok (values.foldl (fun value digit => value * base + digit) 0)
  else
    let shown := String.ofList ((Text.quoted digits).take 200)
    .error (.value s!"invalid literal for int() with base {base}: {shown}")

/-- The integer that a text denotes in decimal digits. -/
def decimalInteger (text : List Char) : Except Error Int :=
  (Text.readInteger text).mapError fun problem => .value problem.message

/-- The integer that groups denote in sixties. -/
def integerOfGroups (groups : List (List Char)) : Except Error Int :=
  groups.foldlM (fun value group => (decimalInteger group).map (value * 60 + ·)) 0

/-- The size of an integer scalar, without its sign. -/
def integerSize (text : List Char) : Except Error Int :=
  match text with
  | ['0'] => .ok 0
  | '0' :: 'b' :: digits => (numberInBase 2 digits).map Int.ofNat
  | '0' :: 'x' :: digits => (numberInBase 16 digits).map Int.ofNat
  | '0' :: _ => (numberInBase 8 text).map Int.ofNat
  | _ => if text.contains ':' then integerOfGroups (Text.split ':' text) else decimalInteger text

/-- The value of an integer scalar. -/
def integerValue (text : List Char) : Except Error Setting :=
  let (negative, body) := signOf (withoutGaps text)
  (integerSize body).map fun size => .integer (if negative then -size else size)

/-- The decimal exponent of a number in words, which may be absent. -/
def exponentValue? (text : List Char) : Option Int :=
  match text with
  | [] => some 0
  | _ :: rest =>
    let (negative, digits) := signOf rest
    if digits.isEmpty || !digits.all Char.isDigit then none
    else
      let size : Int := decimalNumber digits
      some (if negative then -size else size)

/-- The number that decimal digits with a point and an exponent denote. -/
def positionalValue? (text : List Char) : Option Number.Binary := do
  let whole := text.takeWhile Char.isDigit
  let afterWhole := text.dropWhile Char.isDigit
  let (fraction, rest) :=
    match afterWhole with
    | '.' :: digits => (digits.takeWhile Char.isDigit, digits.dropWhile Char.isDigit)
    | _ => ([], afterWhole)
  if whole.isEmpty && fraction.isEmpty then none
  if rest.head?.any (· ≠ 'e') then none
  let exponent ← exponentValue? rest
  return Number.Binary.ofDecimal (decimalNumber (whole ++ fraction)) (exponent - fraction.length)

/-- The number in words, in lower case, with a sign of its own. -/
def floatValue (text : List Char) : Except Error Number.Binary :=
  let trimmed := (text.dropWhile Text.isBlank).reverse.dropWhile Text.isBlank |>.reverse
  let (negative, body) := signOf trimmed
  let size : Option Number.Binary :=
    if body = "inf".toList || body = "infinity".toList then some (.infinite false)
    else if body = "nan".toList then some .nan
    else positionalValue? body
  match size with
  | some number => .ok (if negative then number.negate else number)
  | none =>
    .error (.value s!"could not convert string to float: {String.ofList (Text.quoted text)}")

/-- The number that groups denote in sixties, the last group first. -/
def decimalOfGroups (base : Nat) (sofar : Number.Binary) :
    List (List Char) → Except Error Number.Binary
  | [] => .ok sofar
  | group :: rest =>
    match floatValue group with
    | .error problem => .error problem
    | .ok digit =>
      decimalOfGroups (base * 60) (sofar.add (digit.multiply (.ofNat base))) rest

/-- The value of a decimal scalar. -/
def decimalValue (text : List Char) : Except Error Setting :=
  let (negative, body) := signOf ((withoutGaps text).map Char.toLower)
  let size : Except Error Number.Binary :=
    if body = ".inf".toList then .ok (.infinite false)
    else if body = ".nan".toList then .ok .nan
    else if body.contains ':' then decimalOfGroups 1 (.ofNat 0) (Text.split ':' body).reverse
    else floatValue body
  size.map fun number =>
    .decimal (if negative && number ≠ .nan then number.negate else number)

/-- The value of a truth word. -/
def truthValue (text : List Char) : Except Error Setting :=
  match truthWords.lookup (String.ofList (text.map Char.toLower)) with
  | some value => .ok (.flag value)
  | none => .error .truthWord

/-- The day with the given numbers. -/
def dayValue (year month day : Nat) : Except Error Day :=
  if year = 0 then .error (.value "year 0 is out of range")
  else if month < 1 || 12 < month then .error (.value "month must be in 1..12")
  else if day < 1 || Day.daysOfMonth year month < day then
    .error (.value "day is out of range for month")
  else .ok ⟨year, month, day⟩

/-- The minutes by which a zone is ahead. -/
def Zone.minutes : Zone → Int
  | .universal => 0
  | .ahead negative hours minutes =>
    let size : Int := decimalNumber hours * 60 + decimalNumber minutes
    if negative then -size else size

/-- How far the zone of a time is ahead, which must be less than a day. -/
def zoneValue (clock : ClockText) : Except Error (Option Int) :=
  match clock.zone.map Zone.minutes with
  | none => .ok none
  | some minutes =>
    if minutes.natAbs < 1440 then .ok (some minutes)
    else
      let allowed := "timedelta(hours=24)"
      .error (.value (s!"offset must be a timedelta strictly between -{allowed} and "
        ++ s!"{allowed}, not {writtenLength minutes}"))

/-- The time of day that digits give, in a zone. -/
def clockValue (clock : ClockText) (offset : Option Int) : Except Error Clock :=
  let hour := decimalNumber clock.hour
  let minute := decimalNumber clock.minute
  let second := decimalNumber clock.second
  let digits := clock.fraction.take 6
  let microsecond := decimalNumber (digits ++ List.replicate (6 - digits.length) '0')
  if 23 < hour then .error (.value "hour must be in 0..23")
  else if 59 < minute then .error (.value "minute must be in 0..59")
  else if 59 < second then .error (.value "second must be in 0..59")
  else .ok ⟨hour, minute, second, microsecond, offset⟩

/-- The value of a time. Its zone is looked at before its day. -/
def timeValue (text : List Char) : Except Error Setting :=
  match timestamp? text with
  | none => .error .time
  | some found =>
    let day := dayValue (decimalNumber found.year) (decimalNumber found.month)
      (decimalNumber found.day)
    match found.clock with
    | none => day.map .date
    | some clock => do
      let offset ← zoneValue clock
      let day ← day
      return .moment day (← clockValue clock offset)

/-- The value of a scalar with a tag. -/
def scalarValue (tag : String) (text : List Char) : Except Error Setting :=
  if tag = textTag then .ok (.text (String.ofList text))
  else if tag = standardTag "null" then .ok .null
  else if tag = standardTag "bool" then truthValue text
  else if tag = standardTag "int" then integerValue text
  else if tag = standardTag "float" then decimalValue text
  else if tag = standardTag "timestamp" then timeValue text
  else .error .malformed

/-- The entry with a setting as its key, which must be no list and no table. -/
def keyed (key value : Setting) : Except Error (Setting × Setting) :=
  match key with
  | .list _ | .table _ => .error .malformed
  | _ => .ok (key, value)

/-- The table of entries, of which the last for a key holds. -/
def tableOf (entries : List (Setting × Setting)) : Setting :=
  .table (entries.foldl (fun table entry => Table.put entry.1 entry.2 table) [])

/-- The tag of a node. -/
def Node.tag : Node → String
  | .scalar tag _ | .sequence tag _ | .mapping tag _ => tag

/-- The entries of a mapping: those that are merged into it, and its own. -/
structure Entries where
  merged : List (Setting × Setting)
  own : List (Setting × Setting)

/-- All entries, the merged ones first. -/
def Entries.all (entries : Entries) : List (Setting × Setting) := entries.merged ++ entries.own

mutual

/-- The setting that a node gives. -/
def Node.value : Node → Except Error Setting
  | .scalar tag text => scalarValue tag text
  | .sequence tag items =>
    if tag = sequenceTag then (valuesOf items).map .list else .error .malformed
  | .mapping tag entries =>
    if tag = mappingTag then (entriesOf entries).map fun found => tableOf found.all
    else .error .malformed

/-- The settings that nodes give. -/
def valuesOf : List Node → Except Error (List Setting)
  | [] => .ok []
  | node :: rest => do
    let first ← node.value
    return first :: (← valuesOf rest)

/-- The entries that pairs of nodes give. -/
def entriesOf : List (Node × Node) → Except Error Entries
  | [] => .ok ⟨[], []⟩
  | (key, value) :: rest => do
    if key.tag = standardTag "merge" then
      let front ← mergedOf value
      let others ← entriesOf rest
      return ⟨front ++ others.merged, others.own⟩
    else
      let found ← if key.tag = standardTag "value" then textOf key else key.value
      let entry ← keyed found (← value.value)
      let others ← entriesOf rest
      return ⟨others.merged, entry :: others.own⟩

/-- The text of a scalar. -/
def textOf : Node → Except Error Setting
  | .scalar _ text => .ok (.text (String.ofList text))
  | _ => .error .malformed

/-- The entries that the value of a merge brings in. -/
def mergedOf : Node → Except Error (List (Setting × Setting))
  | .mapping _ entries => (entriesOf entries).map Entries.all
  | .sequence _ items => mergedItems items
  | .scalar _ _ => .error .malformed

/-- The entries that several mappings bring in, those of the last first. -/
def mergedItems : List Node → Except Error (List (Setting × Setting))
  | [] => .ok []
  | .mapping _ entries :: rest => do
    let front ← entriesOf entries
    let others ← mergedItems rest
    return others ++ front.all
  | _ :: _ => .error .malformed

end

/-- The setting that a text gives. A text without a document gives null. -/
def read (text : List Char) : Except Error Setting :=
  match tokens text with
  | .error .malformed => .error .malformed
  | .error .codePoint => .error (.value "chr() arg not in range(0x110000)")
  | .ok found =>
    match Node.ofTokens? found with
    | none => .error .malformed
    | some none => .ok .null
    | some (some node) => node.value

end LintReview.Yaml

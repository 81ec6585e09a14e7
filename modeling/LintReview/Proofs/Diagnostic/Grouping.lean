import LintReview.Diagnostic
import LintReview.Proofs.Text.Lines
import LintReview.Proofs.Text.Parts

/-!
# Diagnostics and their detail lines

A linter's output is noise followed by blocks, each of a header and the detail lines after
it. Every block gives one diagnostic, which has exactly the block's own detail lines
(`group_blocks`). Where a further text begins with a header, nothing of it belongs to a
diagnostic before it (`group_append`), so output that comes in two parts is read part by part.
-/

namespace LintReview.Diagnostic

/-- A header line with what it announces, and the lines up to the next header. -/
structure Block where
  header : List Char
  announced : Diagnostic
  details : List (List Char)
  announces : ofHeader? header = .ok (some announced)
  plain : ∀ line ∈ details, ofHeader? line = .ok none

namespace Block

/-- The lines of the block. -/
def lines (block : Block) : List (List Char) := block.header :: block.details

/-- The diagnostic that the block stands for: what its header announces, with its other lines and
    a newline between any two of them. -/
def diagnostic (block : Block) : Diagnostic :=
  { block.announced with details := String.ofList (['\n'].intercalate block.details) }

/-- The detail lines of the block make its diagnostic out of what the header announces. -/
theorem withDetails_details (block : Block) :
    block.announced.withDetails block.details = block.diagnostic := by
  rw [withDetails, Text.join_eq_intercalate]
  rfl

end Block

/-- The first line of a text is a header. -/
def StartsWithHeader (text : List Char) : Prop :=
  ∃ line diagnostic, (Text.lines text).head? = some line ∧ ofHeader? line = .ok (some diagnostic)

/-- What follows a line that is no header, with this line in front of its detail lines. -/
theorem group_plain {line : List Char} (rest : List (List Char))
    (plain : ofHeader? line = .ok none) :
    group (line :: rest) =
      (group rest).map fun (details, diagnostics) => (line :: details, diagnostics) := by
  rw [group, plain]
  rfl

/-- A header takes the detail lines that follow it, and leaves none. -/
theorem group_header {line : List Char} {diagnostic : Diagnostic} (rest : List (List Char))
    (announces : ofHeader? line = .ok (some diagnostic)) :
    group (line :: rest) =
      (group rest).map fun (details, diagnostics) =>
        ([], diagnostic.withDetails details :: diagnostics) := by
  rw [group, announces]
  rfl

/-- Lines without a header are detail lines of what stands before them. -/
theorem group_noise {noise rest : List (List Char)}
    (plain : ∀ line ∈ noise, ofHeader? line = .ok none)
    {details : List (List Char)} {diagnostics : List Diagnostic}
    (grouped : group rest = .ok (details, diagnostics)) :
    group (noise ++ rest) = .ok (noise ++ details, diagnostics) := by
  induction noise with
  | nil => exact grouped
  | cons line others inductionHypothesis =>
    obtain ⟨first, later⟩ := List.forall_mem_cons.mp plain
    rw [List.cons_append, group_plain _ first, inductionHypothesis later]
    rfl

/-- Blocks give their diagnostics, one for each and in order, and leave no detail lines. -/
theorem group_blocks (blocks : List Block) :
    group (blocks.flatMap Block.lines) = .ok ([], blocks.map Block.diagnostic) := by
  induction blocks with
  | nil => rfl
  | cons block rest inductionHypothesis =>
    have inside := group_noise block.plain inductionHypothesis
    rw [List.append_nil] at inside
    rw [List.flatMap_cons, Block.lines, List.cons_append, group_header _ block.announces, inside,
      List.map_cons, ← block.withDetails_details]
    rfl

/-- Lines that begin with a header leave no detail lines. -/
theorem details_of_startsWithHeader {text : List Char} (headed : StartsWithHeader text)
    {details : List (List Char)} {diagnostics : List Diagnostic}
    (grouped : group (Text.lines text) = .ok (details, diagnostics)) : details = [] := by
  obtain ⟨line, diagnostic, first, announces⟩ := headed
  obtain ⟨rest, same⟩ : ∃ rest, Text.lines text = line :: rest := List.head?_eq_some_iff.mp first
  rw [same, group_header _ announces] at grouped
  cases tail : group rest with
  | error cause =>
    rw [tail] at grouped
    cases grouped
  | ok parts =>
    rw [tail] at grouped
    cases grouped
    rfl

/-- Where the later lines leave no detail lines, they are grouped on their own. The first line
    that cannot be read is met first, whichever part it is in. -/
theorem group_append {earlier later : List (List Char)}
    (unclaimed : ∀ details diagnostics, group later = .ok (details, diagnostics) → details = []) :
    group (earlier ++ later) = (do
      let (details, first) ← group earlier
      let (_, second) ← group later
      return (details, first ++ second)) := by
  induction earlier with
  | nil =>
    cases grouped : group later with
    | error cause => simp [group, grouped, bind, Except.bind]
    | ok parts =>
      obtain ⟨details, diagnostics⟩ := parts
      obtain rfl : details = [] := unclaimed details diagnostics grouped
      simp [group, grouped, bind, Except.bind, pure, Except.pure]
  | cons line rest inductionHypothesis =>
    rw [List.cons_append, group, group, inductionHypothesis]
    cases ofHeader? line with
    | error cause => rfl
    | ok header =>
      cases group rest with
      | error cause => rfl
      | ok parts =>
        cases group later with
        | error cause => cases header <;> rfl
        | ok others => cases header <;> rfl

/-- A text that begins with a header shares no line break with the text in front of it. -/
theorem StartsWithHeader.apart {later : List Char} (headed : StartsWithHeader later)
    (earlier : List Char) : ¬ Text.SharesBreak earlier later := by
  rintro ⟨-, fed⟩
  obtain ⟨line, diagnostic, first, announces⟩ := headed
  obtain ⟨rest, rfl⟩ : ∃ rest, later = '\n' :: rest := List.head?_eq_some_iff.mp fed
  have empty : Text.lines ('\n' :: rest) = [] :: Text.lines rest :=
    Text.lines_break rfl (by rintro ⟨returned, -⟩; simp at returned)
  rw [empty] at first
  obtain rfl : [] = line := by simpa using first
  cases announces

/-- Output is read block by block and part by part. Noise and blocks, every line of them with a
    newline behind it, give exactly the diagnostics of the blocks. Output that ends with a line,
    and output that begins with a header, together give the diagnostics of the one and then
    those of the other. -/
theorem ofOutput_grouped :
    (∀ (noise : List (List Char)) (blocks : List Block),
      (∀ line ∈ noise, ofHeader? line = .ok none) →
      (∀ line ∈ noise ++ blocks.flatMap Block.lines, Text.IsLine line) →
      ofOutput (String.ofList
          ((noise ++ blocks.flatMap Block.lines).flatMap fun line => line ++ ['\n'])) =
        .ok (blocks.map Block.diagnostic)) ∧
    (∀ earlier later : String, Text.EndsLine earlier.toList → StartsWithHeader later.toList →
      ofOutput (earlier ++ later) = (do
        let first ← ofOutput earlier
        let second ← ofOutput later
        return first ++ second)) := by
  constructor
  · intro noise blocks plain unbroken
    have grouped := group_noise plain (group_blocks blocks)
    rw [ofOutput, String.toList_ofList, Text.lines_ended unbroken, grouped]
    rfl
  · intro earlier later ends headed
    have parted : Text.lines (earlier ++ later).toList =
        Text.lines earlier.toList ++ Text.lines later.toList := by
      rw [String.toList_append, Text.lines_append ends (headed.apart _)]
    rw [ofOutput, parted, group_append fun _ _ => details_of_startsWithHeader headed, ofOutput,
      ofOutput]
    cases group (Text.lines earlier.toList) with
    | error cause => rfl
    | ok parts =>
      cases group (Text.lines later.toList) with
      | error cause => rfl
      | ok others => rfl

/-- A finding with two detail lines, and one directly after it that has none. -/
def twoBlocks : List Block :=
  [ { header := "a.cpp:3:1: warning: use auto [modernize]".toList
      announced := ⟨"a.cpp", 3, 1, "warning", " use auto ", "[modernize]", ""⟩
      details := ["  int x = f();".toList, "  ^".toList]
      announces := rfl
      plain := List.forall_mem_cons.mpr ⟨rfl, List.forall_mem_singleton.mpr rfl⟩ },
    { header := "a.cpp:9:2:error: bad [x]".toList
      announced := ⟨"a.cpp", 9, 2, "error", " bad ", "[x]", ""⟩
      details := []
      announces := rfl
      plain := List.forall_mem_nil _ } ]

/-- The two behind a line of noise, as a linter writes them. -/
def twoBlocksOutput : String :=
  "2 files\na.cpp:3:1: warning: use auto [modernize]\n  int x = f();\n  ^\n" ++
    "a.cpp:9:2:error: bad [x]\n"

/-- Two blocks behind a line of noise, and two headers with a carriage return between them. -/
theorem ofOutput_grouped_twoBlocks :
    (∀ line ∈ ["2 files".toList], ofHeader? line = .ok none) ∧
    (∀ line ∈ ["2 files".toList] ++ twoBlocks.flatMap Block.lines, Text.IsLine line) ∧
    String.ofList ((["2 files".toList] ++ twoBlocks.flatMap Block.lines).flatMap
        fun line => line ++ ['\n']) = twoBlocksOutput ∧
    ofOutput twoBlocksOutput =
      .ok [⟨"a.cpp", 3, 1, "warning", " use auto ", "[modernize]", "  int x = f();\n  ^"⟩,
        ⟨"a.cpp", 9, 2, "error", " bad ", "[x]", ""⟩] ∧
    Text.EndsLine "a.cpp:1:1:error: one [x]\r".toList ∧
    StartsWithHeader "a.cpp:2:1:error: two [x]\n ^\n".toList ∧
    ofOutput ("a.cpp:1:1:error: one [x]\r" ++ "a.cpp:2:1:error: two [x]\n ^\n") =
      .ok [⟨"a.cpp", 1, 1, "error", " one ", "[x]", ""⟩,
        ⟨"a.cpp", 2, 1, "error", " two ", "[x]", " ^"⟩] := by
  have plain : ∀ line ∈ ["2 files".toList], ofHeader? line = .ok none :=
    List.forall_mem_singleton.mpr rfl
  have unbroken : ∀ line ∈ ["2 files".toList] ++ twoBlocks.flatMap Block.lines,
      Text.IsLine line := by decide
  have written : String.ofList ((["2 files".toList] ++ twoBlocks.flatMap Block.lines).flatMap
        fun line => line ++ ['\n']) = twoBlocksOutput := rfl
  have diagnostics : twoBlocks.map Block.diagnostic =
      [⟨"a.cpp", 3, 1, "warning", " use auto ", "[modernize]", "  int x = f();\n  ^"⟩,
        ⟨"a.cpp", 9, 2, "error", " bad ", "[x]", ""⟩] := rfl
  have ends : Text.EndsLine "a.cpp:1:1:error: one [x]\r".toList := by
    intro last found
    obtain rfl : '\r' = last := by simpa using found
    rfl
  have headed : StartsWithHeader "a.cpp:2:1:error: two [x]\n ^\n".toList := ⟨_, _, rfl, rfl⟩
  have first : ofOutput "a.cpp:1:1:error: one [x]\r" =
      .ok [⟨"a.cpp", 1, 1, "error", " one ", "[x]", ""⟩] := rfl
  have second : ofOutput "a.cpp:2:1:error: two [x]\n ^\n" =
      .ok [⟨"a.cpp", 2, 1, "error", " two ", "[x]", " ^"⟩] := rfl
  refine ⟨plain, unbroken, written, ?_, ends, headed, ?_⟩
  · rw [← written, ofOutput_grouped.1 _ _ plain unbroken, diagnostics]
  · rw [ofOutput_grouped.2 _ _ ends headed, first, second]
    rfl

end LintReview.Diagnostic

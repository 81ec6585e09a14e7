import LintReview.Proofs.Diff.Patches
import LintReview.Proofs.Diff.ReadWritten
import Mathlib.Data.List.Induction

/-!
# Hunks and the lines they are read from

Every hunk of a diff that can be read, well-formed or not, stands at a place of the text: a
header line that the reader meets outside blocks, and directly below it the lines of the
hunk's block. Each line of the block is a body line or a marker, and the body lines are the
hunk's body in order. Empty lines and markers behind a complete block are read outside it,
so the block never includes them.

The numbers of a hunk are those of its header, and the header counts the body. So the
numbers of every span that a change reports are sums of the numbers of context, added and
removed lines of a block in the text.

The place is found once, when the hunk is opened. Afterwards every line keeps it: the hunk
under way grows with the block, and a complete hunk is never touched again.
-/

namespace LintReview.Diff

open Written (Between)

/-- A place in the lines of a text: a header line with a block of lines below it. -/
structure BlockPlace (lines : List (List Char)) where
  before : List (List Char)
  header : List Char
  block : List (List Char)
  after : List (List Char)
  lines_eq : lines = before ++ header :: (block ++ after)

/-- The hunk is read from the place, as the next one of the file with the given number.

    The reader comes to the header outside blocks, with the file read as far as given. The
    header opens the hunk, and the block is its body. -/
structure BlockPlace.Gives {lines : List (List Char)} (place : BlockPlace lines) (number : Nat)
    (known : Section) (hunk : Hunk) : Prop where
  reached : ∃ reader, Reader.run ⟨[], none, .outside⟩ place.before = .ok reader ∧
    Between reader ∧ reader.complete.length = number ∧ reader.phase.file? = some known
  opens : (Row.ofLine place.header).Opens { hunk with body := [] }
  marked : ∀ line ∈ place.block, (bodyLine? line).isSome = true
  body : hunk.body = place.block.filterMap bodyLineOf?

/-- Each hunk of the file is read from a place. -/
def Section.Located (file : Section) (lines : List (List Char)) (number : Nat) : Prop :=
  ∀ earlier hunk later, file.hunks = earlier ++ hunk :: later →
    ∃ place : BlockPlace lines, place.Gives number ⟨file.source, file.target, earlier⟩ hunk

section Places

variable {lines : List (List Char)}

/-- One more line leaves a place where it is. -/
def BlockPlace.widen (place : BlockPlace lines) (line : List Char) :
    BlockPlace (lines ++ [line]) where
  before := place.before
  header := place.header
  block := place.block
  after := place.after ++ [line]
  lines_eq := by simp [place.lines_eq]

/-- A block at the end of the lines goes on with one more line. -/
def BlockPlace.extend (place : BlockPlace lines) (last : place.after = []) (line : List Char) :
    BlockPlace (lines ++ [line]) where
  before := place.before
  header := place.header
  block := place.block ++ [line]
  after := []
  lines_eq := by simp [place.lines_eq, last]

variable {number : Nat} {file : Section} {hunk : Hunk}

theorem BlockPlace.Gives.widen {place : BlockPlace lines}
    (gives : place.Gives number file hunk) (line : List Char) :
    (place.widen line).Gives number file hunk :=
  ⟨gives.reached, gives.opens, gives.marked, gives.body⟩

/-- A line with the mark of a body line or of a marker goes on with the hunk. -/
theorem BlockPlace.Gives.extend {place : BlockPlace lines}
    (gives : place.Gives number file hunk) (last : place.after = []) {line : List Char}
    (marked : (bodyLine? line).isSome = true) :
    (place.extend last line).Gives number file
      { hunk with body := hunk.body ++ (bodyLineOf? line).toList } := by
  constructor
  · exact gives.reached
  · exact gives.opens
  · exact List.forall_mem_append.mpr ⟨gives.marked, List.forall_mem_singleton.mpr marked⟩
  · have block : (place.extend last line).block = place.block ++ [line] := rfl
    have one : [line].filterMap bodyLineOf? = (bodyLineOf? line).toList := by
      cases read : bodyLineOf? line <;> simp [read]
    rw [block, List.filterMap_append, ← gives.body, one]

theorem Section.Located.widen (located : file.Located lines number) (line : List Char) :
    file.Located (lines ++ [line]) number := by
  intro earlier hunk later split
  obtain ⟨place, gives⟩ := located earlier hunk later split
  exact ⟨place.widen line, gives.widen line⟩

/-- A file without hunks has none that is not found. -/
theorem Section.located_of_bare (lines : List (List Char)) (number : Nat)
    (bare : file.hunks = []) : file.Located lines number := by
  intro earlier hunk later split
  rw [bare] at split
  simp at split

/-- A hunk behind the others: either it is asked for or one of them. -/
theorem Section.Located.addHunk (located : file.Located lines number)
    {place : BlockPlace lines} (gives : place.Gives number file hunk) :
    Section.Located { file with hunks := file.hunks ++ [hunk] } lines number := by
  intro earlier tested later split
  have split : file.hunks ++ [hunk] = earlier ++ tested :: later := split
  rcases List.eq_nil_or_concat later with rfl | ⟨between, last, rfl⟩
  · obtain ⟨same, one⟩ := List.append_inj' split rfl
    obtain rfl : hunk = tested := List.singleton_inj.mp one
    rw [← same]
    exact ⟨place, gives⟩
  · have before : file.hunks = earlier ++ tested :: between := by
      rw [List.concat_eq_append, ← List.cons_append, ← List.append_assoc] at split
      exact (List.append_inj' split rfl).1
    exact located earlier tested between before

end Places

/-- What holds of the hunks after any lines: each is read from a place of the lines, the one
    under way from the end of them. In the header of a file there is none. -/
structure Reader.Located (reader : Reader) (lines : List (List Char)) : Prop where
  files : ∀ (number : Nat) (file : Section), reader.files[number]? = some file →
    file.Located lines number
  current : ∀ file hunk oldLeft newLeft, reader.phase = .hunk file hunk oldLeft newLeft →
    ∃ place : BlockPlace lines, place.after = [] ∧
      place.Gives reader.complete.length file hunk
  header : ∀ file, reader.phase = .header file → file.hunks = []

/-- Files that stay under their number stay located. -/
theorem Reader.Located.kept {reader next : Reader} {lines : List (List Char)}
    (located : reader.Located lines) (line : List Char)
    (kept : ∀ (number : Nat) (file : Section), next.files[number]? = some file →
      file.hunks = [] ∨ reader.files[number]? = some file) :
    ∀ (number : Nat) (file : Section), next.files[number]? = some file →
      file.Located (lines ++ [line]) number := by
  intro number file found
  rcases kept number file found with bare | known
  · exact Section.located_of_bare _ number bare
  · exact (located.files number file known).widen line

/-- A line outside blocks completes no hunk, and one that opens a hunk is its header. -/
theorem Reader.Located.effect {reader next : Reader} {lines : List (List Char)}
    {line : List Char} (located : reader.Located lines)
    (ran : Reader.run ⟨[], none, .outside⟩ lines = .ok reader) (between : Between reader)
    (effect : RowEffect reader next (Row.ofLine line)) : next.Located (lines ++ [line]) := by
  cases effect with
  | opensHunk file hunk current opens after =>
    subst after
    refine ⟨?_, ?_, ?_⟩
    · apply located.kept
      intro number known found
      right
      rw [getElem?_files] at found ⊢
      rw [current]
      exact found
    · intro known opened oldLeft newLeft phase
      cases phase
      have bare : hunk.body = [] := by
        obtain ⟨_, _, _, _, _, -, read⟩ := opens
        exact openHunk_body read
      have fresh : ({ hunk with body := [] } : Hunk) = hunk := by rw [← bare]
      refine ⟨⟨lines, line, [], [], by simp⟩, rfl, ?_⟩
      constructor
      · exact ⟨reader, ran, between, rfl, current⟩
      · rw [fresh]
        exact opens
      · simp
      · exact bare
    · intro known phase
      cases phase
  | marksFile file source target notice current after =>
    subst after
    have bare : file.hunks = [] := located.header file current
    refine ⟨?_, ?_, ?_⟩
    · apply located.kept
      intro number known found
      rw [getElem?_files] at found
      rcases found with complete | ⟨-, marked⟩
      · exact .inr (getElem?_files.mpr (.inl complete))
      · obtain rfl : (⟨source, target, file.hunks⟩ : Section) = known := Option.some.inj marked
        exact .inl bare
    · intro known hunk oldLeft newLeft phase
      cases phase
    · intro known phase
      cases phase
      exact bare
  | keepsFiles fresh bare files moves =>
    refine ⟨?_, ?_, ?_⟩
    · apply located.kept
      intro number known found
      rw [files, List.getElem?_append] at found
      split at found
      · exact .inr found
      · exact .inl (bare known (List.mem_of_getElem? found))
    · intro known hunk oldLeft newLeft phase
      rw [phase] at moves
      exact absurd moves.of_hunk (between known hunk oldLeft newLeft)
    · intro known phase
      rw [phase] at moves
      rcases moves.of_header with before | begun
      · exact located.header known before
      · exact bare known begun

/-- A line inside a block goes on with its hunk, and the hunk joins its file when it is
    complete. -/
theorem Reader.Located.hunkStep {reader : Reader} {lines : List (List Char)} {line : List Char}
    {file : Section} {hunk : Hunk} {oldLeft newLeft : Nat} {after : Phase}
    (located : reader.Located lines) (phase : reader.phase = .hunk file hunk oldLeft newLeft)
    (advanced : Diff.hunkStep file hunk oldLeft newLeft line = .ok after) :
    Reader.Located { reader with phase := after } (lines ++ [line]) := by
  obtain ⟨marked, oldRemaining, newRemaining, -, -, rfl⟩ := hunkStep_eq_ok advanced
  obtain ⟨place, last, gives⟩ := located.current file hunk oldLeft newLeft phase
  have grown := gives.extend last marked
  have known : file.Located (lines ++ [line]) reader.complete.length := by
    apply Section.Located.widen
    apply located.files
    rw [getElem?_files, phase]
    exact .inr ⟨rfl, rfl⟩
  have complete : ∀ (number : Nat) (other : Section), reader.complete[number]? = some other →
      other.Located (lines ++ [line]) number := by
    intro number other found
    exact (located.files number other (getElem?_files.mpr (.inl found))).widen line
  unfold Phase.afterLine
  split
  · refine ⟨?_, ?_, ?_⟩
    · intro number other found
      rcases getElem?_files.mp found with earlier | ⟨rfl, same⟩
      · exact complete number other earlier
      · obtain rfl := Option.some.inj same
        exact known.addHunk grown
    · intro other opened oldLeft newLeft inside
      cases inside
    · intro other inside
      cases inside
  · refine ⟨?_, ?_, ?_⟩
    · intro number other found
      rcases getElem?_files.mp found with earlier | ⟨rfl, same⟩
      · exact complete number other earlier
      · obtain rfl := Option.some.inj same
        exact known
    · intro other opened oldLeft newLeft inside
      cases inside
      exact ⟨place.extend last line, rfl, grown⟩
    · intro other inside
      cases inside

/-- After any lines each hunk is read from a place of them.

    By induction on the lines from their end: the last line is one step of the reader. -/
theorem run_located {reader : Reader} {lines : List (List Char)}
    (ran : Reader.run ⟨[], none, .outside⟩ lines = .ok reader) : reader.Located lines := by
  induction lines using List.reverseRecOn generalizing reader with
  | nil =>
    cases ran
    refine ⟨?_, ?_, ?_⟩
    · intro number file found
      simp [Reader.files, Phase.file?] at found
    · intro file hunk oldLeft newLeft phase
      cases phase
    · intro file phase
      cases phase
  | append_singleton lines line inductionHypothesis =>
    obtain ⟨before, ranBefore, stepped⟩ := run_concat_eq_ok.mp ran
    have located := inductionHypothesis ranBefore
    rcases step_eq_ok stepped with
      ⟨file, hunk, oldLeft, newLeft, after, phase, advanced, rfl⟩ | ⟨between, effect⟩
    · exact located.hunkStep phase advanced
    · exact located.effect ranBefore between effect

/-- In every diff that has sections, each hunk is read from a place of the text. -/
theorem sections_located {text : List Char} {files : List Section}
    (read : sections text = .ok files) {number : Nat} {file : Section}
    (found : files[number]? = some file) : file.Located (Text.terminated text) number := by
  simp only [sections, bind, Except.bind] at read
  cases ran : Reader.run ⟨[], none, .outside⟩ (Text.terminated text) with
  | error cause => simp [ran] at read
  | ok reader =>
    simp only [ran] at read
    have located := run_located ran
    unfold Reader.finish at read
    split at read
    · rename_i current hunk phase
      cases read
      obtain ⟨place, -, gives⟩ := located.current current hunk 0 0 phase
      rw [List.getElem?_append] at found
      split at found
      · exact located.files number file (Reader.getElem?_files.mpr (.inl found))
      · have known : current.Located (Text.terminated text) reader.complete.length := by
          apply located.files
          rw [Reader.getElem?_files, phase]
          exact .inr ⟨rfl, rfl⟩
        obtain ⟨short, same⟩ := List.getElem?_eq_some_iff.mp found
        have first : number = reader.complete.length := by
          simp only [List.length_singleton] at short
          omega
        subst first
        simp only [Nat.sub_self, List.getElem_cons_zero] at same
        subst same
        exact known.addHunk gives
    · cases read
    · cases read
      exact located.files number file found

/-! ## Counting the lines -/

/-- How many of the body lines are of the kind. -/
def kindCount (kind : LineKind) (body : List BodyLine) : Nat :=
  body.countP fun line => line.kind = kind

theorem kindCount_cons (kind : LineKind) (line : BodyLine) (rest : List BodyLine) :
    kindCount kind (line :: rest) =
      (decide (line.kind = kind)).toNat + kindCount kind rest :=
  countP_cons_toNat _ line rest

/-- The rows of the new file are the context lines and the added lines. -/
theorem newRows_eq (body : List BodyLine) :
    newRows body = kindCount .context body + kindCount .added body := by
  induction body with
  | nil => rfl
  | cons line rest inductionHypothesis =>
    rw [newRows_cons, kindCount_cons, kindCount_cons, inductionHypothesis]
    cases line.kind <;> simp [LineKind.inNew] <;> omega

/-- The rows of the old file are the context lines and the removed lines. -/
theorem oldRows_eq (body : List BodyLine) :
    oldRows body = kindCount .context body + kindCount .removed body := by
  induction body with
  | nil => rfl
  | cons line rest inductionHypothesis =>
    rw [oldRows_cons, kindCount_cons, kindCount_cons, inductionHypothesis]
    cases line.kind <;> simp [LineKind.inOld] <;> omega

/-- Every body line is of one of the three kinds. -/
theorem length_eq_kindCounts (body : List BodyLine) :
    body.length =
      kindCount .context body + kindCount .added body + kindCount .removed body := by
  induction body with
  | nil => rfl
  | cons line rest inductionHypothesis =>
    rw [List.length_cons, kindCount_cons, kindCount_cons, kindCount_cons, inductionHypothesis]
    cases line.kind <;> simp <;> omega

/-- The numbers of the span are sums of the numbers of context, added and removed lines. -/
structure Span.Counts (span : Span) (context added removed : Nat) : Prop where
  new : span.newLines = context + added
  old : span.oldLines = context + removed
  all : span.lineCount = context + added + removed

/-- The numbers of a measured hunk count its body. -/
theorem Hunk.Measured.counts {hunk : Hunk} (measured : hunk.Measured) :
    hunk.span.Counts (kindCount .context hunk.body) (kindCount .added hunk.body)
      (kindCount .removed hunk.body) := by
  have new : hunk.span.newLines = newRows hunk.body := by rw [measured.new]; rfl
  have old : hunk.span.oldLines = oldRows hunk.body := by rw [measured.old]; rfl
  have all : hunk.span.lineCount = hunk.body.length := rfl
  constructor
  · rw [new, newRows_eq, Int.natCast_add]
  · rw [old, oldRows_eq, Int.natCast_add]
  · rw [all, length_eq_kindCounts, Int.natCast_add, Int.natCast_add]

/-- A hunk has as many lines as the longer of its two sides, and no more than both. -/
theorem Span.Counts.bounds {span : Span} {context added removed : Nat}
    (counts : span.Counts context added removed) :
    max span.oldLines span.newLines ≤ span.lineCount ∧
      span.lineCount ≤ span.oldLines + span.newLines := by
  obtain ⟨new, old, all⟩ := counts
  constructor <;> omega

/-! ## Patches -/

/-- A renamed file was elsewhere before. -/
theorem Section.patch_renamed {file : Section} {patch : Patch} {previous : String}
    (given : file.patch = .ok patch) (renamed : patch.status = .renamed previous) :
    previous ≠ patch.path := by
  rcases Section.patch_status given with ⟨-, added⟩ | ⟨-, known, -, status⟩
  · rw [renamed] at added
    cases added
  · rw [renamed] at status
    split at status
    · cases status
    · rename_i other
      obtain rfl := Status.renamed.inj status
      exact other

/-- A patch has a previous path exactly if its file was renamed. -/
theorem Patch.previousPath?_eq_some_iff {patch : Patch} {previous : String} :
    patch.previousPath? = some previous ↔ patch.status = .renamed previous := by
  unfold Patch.previousPath?
  cases patch.status <;> simp

/-- An entry of a change is what is found under its path. -/
theorem Change.find?_of_mem {change : Change} {path : String} {patch : Patch}
    (distinct : (change.map Prod.fst).Nodup) (member : (path, patch) ∈ change) :
    change.find? path = some patch := by
  obtain ⟨before, after, rfl⟩ := List.append_of_mem member
  refine List.lookup_eq_some_iff.mpr ⟨before, after, rfl, ?_⟩
  rintro ⟨known, other⟩ earlier
  rw [List.map_append, List.map_cons] at distinct
  have apart := (List.nodup_append.mp distinct).2.2
  have differs : known ≠ path :=
    apart known (List.mem_map_of_mem earlier) path List.mem_cons_self
  simpa using differs.symm

/-- The patch under the path says what the text says.

    It is filed under its own path; it has a previous path exactly if the file was renamed,
    and then another one. Its spans are those of the hunks of one section. Every such hunk is
    read from a place of the text, and the numbers of its span count the context, added and
    removed lines of the block there. -/
structure Patch.ConsistentWith (patch : Patch) (text path : String) : Prop where
  filed : patch.path = path
  renamed : ∀ previous, patch.previousPath? = some previous ↔ patch.status = .renamed previous
  moved : ∀ previous, patch.previousPath? = some previous → previous ≠ patch.path
  counted : ∃ files number file, sections text.toList = .ok files ∧
    files[number]? = some file ∧ file.patch = .ok patch ∧
    patch.spans = file.hunks.map Hunk.span ∧
    ∀ earlier hunk later, file.hunks = earlier ++ hunk :: later →
      ∃ place : BlockPlace (Text.terminated text.toList),
        place.Gives number ⟨file.source, file.target, earlier⟩ hunk ∧
        hunk.span.Counts (kindCount .context (place.block.filterMap bodyLineOf?))
          (kindCount .added (place.block.filterMap bodyLineOf?))
          (kindCount .removed (place.block.filterMap bodyLineOf?)) ∧
        max hunk.span.oldLines hunk.span.newLines ≤ hunk.span.lineCount ∧
        hunk.span.lineCount ≤ hunk.span.oldLines + hunk.span.newLines

/-- What a change reports is consistent with the text, for every text that is accepted. -/
theorem ofDiff_consistent {text : String} {change : Change}
    (accepted : Change.ofDiff text = .ok change) {path : String} {patch : Patch}
    (member : (path, patch) ∈ change) : patch.ConsistentWith text path := by
  have kept : change.find? path = some patch :=
    Change.find?_of_mem (Change.nodup_ofDiff accepted) member
  obtain ⟨files, read, origin⟩ := find?_ofDiff accepted
  obtain ⟨file, found, given⟩ := origin path patch kept
  obtain ⟨named, spans⟩ := Section.patch_eq_ok given
  obtain ⟨inFiles, patched⟩ := sectionOf?_eq_some found
  obtain ⟨number, numbered⟩ := List.getElem?_of_mem inFiles
  refine ⟨?_, fun previous => Patch.previousPath?_eq_some_iff, ?_, files, number, file, read,
    numbered, given, spans, ?_⟩
  · unfold Section.patchedPath? at patched
    split at patched
    · cases patched
    · rw [named] at patched
      exact Option.some.inj patched
  · intro previous stated
    exact Section.patch_renamed given (Patch.previousPath?_eq_some_iff.mp stated)
  · intro earlier hunk later split
    obtain ⟨place, gives⟩ := sections_located read numbered earlier hunk later split
    have measured : hunk.Measured := by
      apply sections_measured read file inFiles
      rw [split]
      exact List.mem_append_right _ List.mem_cons_self
    have counts := measured.counts
    refine ⟨place, gives, ?_, counts.bounds⟩
    rw [← gives.body]
    exact counts

/-- A diff that git does not write: a body line without its blank, a marker inside the block,
    and empty lines behind it. -/
def carelessDiff : String :=
  "diff --git a/a.txt b/b.txt\n--- a/a.txt\n+++ b/b.txt\n@@ -1,2 +1,2 @@ top\n-x\n" ++
    "\\ No newline at end of file\n+y\n\n\n\n"

/-- The patch of that diff counts one line of each kind. -/
def carelessPatch : Patch :=
  ⟨"b.txt", [⟨"@@ -1,2 +1,2 @@ top", 1, 2, 1, 2, 3⟩], .renamed "a.txt"⟩

/-- The one entry of that diff is consistent with it. -/
theorem ofDiff_consistent_careless :
    Change.ofDiff carelessDiff = .ok [("b.txt", carelessPatch)] ∧
      carelessPatch.ConsistentWith carelessDiff "b.txt" := by
  have accepted : Change.ofDiff carelessDiff = .ok [("b.txt", carelessPatch)] := by rfl
  exact ⟨accepted, ofDiff_consistent accepted List.mem_cons_self⟩

end LintReview.Diff

import TypingSession.CommandLine.Result
import TypingSession.Proofs.Fixture.Grammar

/-!
# TypingSession — rendering a file

To render a file is to decode its bytes, to read the text as a fixture, to fail a session
with what was read, and to report that failure. Each of the first two stages may refuse
what it is given, and then nothing is written to standard output.

A report in full can be taken apart again. The parser keeps line feeds out of the messages
(`feed_notMem_messageOf`), so the line feeds of the report are those that were put between
and behind them, and there is a message for each line of the file that counts.

* `parseFile_eq_ok_iff` — what is read from the bytes of a file.
* `messages_eq` — the messages of a failure, by the lines that describe it.
* `ProgramResult.exitCode_ofReading` — what the status tells.
* `ProgramResult.render_endToEnd` — the command as a whole.
-/

namespace TypingSession

open Text (fields trim)

namespace Fixture

/-! ## Messages -/

/-- The message of a line: what stands behind its first bar, trimmed. -/
def messageOf (line : List Char) : List Char := trim (line.dropWhile (· != '|')).tail

theorem Describes.message_eq {line : List Char} {f : Frame} (h : Describes line f) :
    f.message.toList = messageOf line := by
  obtain @⟨before, after, s, hbar, -⟩ := h
  have hbefore : ∀ c ∈ before, (c != '|') = true := by
    intro c hc
    simpa [bne] using Text.beq_of_notMem hbar c hc
  have hdrop : (before ++ '|' :: after).dropWhile (· != '|') = '|' :: after := by
    rw [List.dropWhile_append_of_pos hbefore]
    rfl
  rw [messageOf, hdrop, List.tail_cons, String.toList_ofList]

theorem messages_eq {ls : List (List Char)} {frames : List Frame}
    (h : List.Forall₂ Describes ls frames) :
    (frames.map Frame.message).map String.toList = ls.map messageOf := by
  induction h with
  | nil => rfl
  | cons hf _ ih => rw [List.map_cons, List.map_cons, hf.message_eq, ih, List.map_cons]

theorem feed_notMem_messageOf {text line : List Char}
    (h : line ∈ significant (Text.lines text)) : '\n' ∉ messageOf line := by
  obtain ⟨raw, hraw, rfl⟩ := List.mem_map.mp (List.mem_of_mem_filter h)
  intro hmem
  -- whatever is in a message was in its line, and a line has no line feed
  have hrest : '\n' ∈ ((trim raw).dropWhile (· != '|')).tail := Text.mem_of_mem_trim hmem
  have htrim : '\n' ∈ trim raw := (List.dropWhile_sublist _).mem (List.mem_of_mem_tail hrest)
  exact Text.feed_notMem_of_mem_lines hraw (Text.mem_of_mem_trim htrim)

/-! ## Files -/

/-- What is read from a file is read from the text that its bytes encode. -/
theorem parseFile_eq_ok_iff {path : String} {bytes : ByteArray} {stack : ErrorStack} :
    parseFile path (.ok bytes) = .ok stack ↔
      ∃ text : String, text.toUTF8 = bytes ∧ parse text = .ok stack := by
  by_cases hvalid : bytes.IsValidUTF8
  · have hdecoded : String.fromUTF8? bytes = some ⟨bytes, hvalid⟩ := by
      rw [String.fromUTF8?, dif_pos hvalid]
      rfl
    simp only [parseFile, hdecoded]
    constructor
    · intro h
      exact ⟨⟨bytes, hvalid⟩, rfl, h⟩
    · rintro ⟨text, rfl, h⟩
      exact h
  · have hundecoded : String.fromUTF8? bytes = none := by
      rw [String.fromUTF8?, dif_neg hvalid]
    simp only [parseFile, hundecoded]
    constructor
    · intro h
      cases h
    · rintro ⟨text, rfl, -⟩
      exact absurd text.isValidUTF8 hvalid

end Fixture

/-! ## Reports in full -/

/-- A report in full and the line feed behind it: every message has a line of its own. -/
theorem Frame.toList_verboseReport {frames : List Frame} (h : frames ≠ []) :
    (verboseReport frames ++ "\n").toList =
      ((frames.map message).map String.toList).flatMap (· ++ ['\n']) := by
  have hne : (frames.map message).map String.toList ≠ [] := by simpa using h
  rw [← Text.intercalate_concat_nil, Text.intercalate_concat hne, String.toList_append,
    verboseReport, String.toList_intercalate]
  rfl

/-- In full, what was read from a text is reported by the messages of its lines. -/
theorem Fixture.toList_report {text : String} {stack : ErrorStack} (h : parse text = .ok stack) :
    (stack.report true ++ "\n").toList =
      ((significant (Text.lines text.toList)).map messageOf).flatMap (· ++ ['\n']) := by
  have hframes := parseLines_eq_ok_iff.mp (parse_eq_ok_iff.mp h)
  have hreport := Frame.toList_verboseReport stack.toList_ne_nil
  rw [messages_eq hframes] at hreport
  exact hreport

/-! ## The command -/

/-- The path of the file that is to be rendered, if one is. -/
def Invocation.path? : Invocation → Option String
  | render path _ => some path
  | completions _ | version _ | help _ => none

namespace ProgramResult

open Fixture

variable {read : String → Except ReadError ByteArray} {arguments : List String}
  {path : String} {verbose : Bool} {bytes : ByteArray}

theorem ofArguments_render (h : Invocation.ofArguments arguments = .ok (.render path verbose))
    (hread : read path = .ok bytes) :
    ofArguments read arguments = ofFixture path verbose (.ok bytes) := by
  simp only [ofArguments, ofReading, h, hread]

theorem ofFixture_of_ok {text : String} {stack : ErrorStack} (hbytes : text.toUTF8 = bytes)
    (h : parse text = .ok stack) :
    ofFixture path verbose (.ok bytes) = ⟨1, stack.report verbose ++ "\n", ""⟩ := by
  have hparsed : parseFile path (.ok bytes) = .ok stack := parseFile_eq_ok_iff.mpr ⟨text, hbytes, h⟩
  simp only [ofFixture, hparsed, ofFailure_eq]

theorem ofFixture_of_not_ok (path : String) (verbose : Bool)
    (h : ¬ ∃ text stack, text.toUTF8 = bytes ∧ parse text = .ok stack) :
    ∃ reason, ofFixture path verbose (.ok bytes) = ⟨2, "", "Error: " ++ reason⟩ := by
  cases hparsed : parseFile path (.ok bytes) with
  | ok stack =>
    obtain ⟨text, hbytes, htext⟩ := parseFile_eq_ok_iff.mp hparsed
    exact absurd ⟨text, stack, hbytes, htext⟩ h
  | error e => exact ⟨e.message ++ "\n", by simp only [ofFixture, hparsed, String.append_assoc]⟩

/-- No file is read but the one to be rendered. -/
theorem ofReading_congr {texts : CommandTexts} {read' : String → Except ReadError ByteArray}
    {reading : Except UsageError Invocation}
    (h : ∀ i path, reading = .ok i → i.path? = some path → read path = read' path) :
    ofReading texts read reading = ofReading texts read' reading := by
  cases reading with
  | error e => rfl
  | ok i =>
    cases i with
    | render path verbose => simp only [ofReading, h _ path rfl rfl]
    | completions shell | version command | help command => rfl

/-- What the status tells, whatever the texts about the command line say. It is 1 when a failure
has been rendered, and 0 when something else was asked for. It is 2 when the command line is not
understood, or the file to be rendered holds no fixture or cannot be had. In the last case
nothing is written to standard output, and in the others nothing to standard error. -/
theorem exitCode_ofReading (texts : CommandTexts) (read : String → Except ReadError ByteArray)
    (reading : Except UsageError Invocation) :
    let result := ofReading texts read reading
    (result.exitCode = 0 ↔ ∃ i, reading = .ok i ∧ i.path? = none) ∧
    (result.exitCode = 1 ↔ ∃ path verbose stack,
      reading = .ok (.render path verbose) ∧ parseFile path (read path) = .ok stack) ∧
    (result.exitCode = 2 ↔ (∃ e, reading = .error e) ∨ ∃ path verbose e,
      reading = .ok (.render path verbose) ∧ parseFile path (read path) = .error e) ∧
    (result.exitCode = 2 → result.stdout = "") ∧ (result.exitCode ≠ 2 → result.stderr = "") := by
  cases reading with
  | error e => simp [ofReading]
  | ok i =>
    cases i with
    | render path verbose =>
      cases hparsed : parseFile path (read path) <;>
        simp [ofReading, ofFixture, hparsed, Invocation.path?]
    | completions shell | version command | help command => simp [ofReading, Invocation.path?]

/-- **Rendering a file, end to end.** Let the command line ask for a file to be rendered,
and let the file hold some bytes. The status is 1 exactly when the bytes encode a text that
is a fixture, and then the report of that failure and a line feed are written to standard
output. Otherwise the status is 2, standard output stays empty, and an error is written; so
the status is never 0. In full, the report holds the messages of the lines that count, each
with a line feed behind it, and taking it apart at the line feeds gives just these messages
back. -/
theorem render_endToEnd (h : Invocation.ofArguments arguments = .ok (.render path verbose))
    (hread : read path = .ok bytes) :
    let result := ofArguments read arguments
    (result.exitCode = 1 ↔ ∃ text stack, text.toUTF8 = bytes ∧ parse text = .ok stack) ∧
    (∀ text stack, text.toUTF8 = bytes → parse text = .ok stack →
      result.stdout = stack.report verbose ++ "\n" ∧
      (verbose = true → ∀ ls, Text.ConsistsOf text.toList ls →
        let messages := (significant ls).map messageOf
        result.stdout.toList = messages.flatMap (· ++ ['\n']) ∧
          result.stdout.toList.splitOn '\n' = messages ++ [[]])) ∧
    (result.exitCode ≠ 1 → result.exitCode = 2 ∧ result.stdout = "" ∧
      ∃ reason, result.stderr = "Error: " ++ reason) ∧
    result.exitCode ≠ 0 := by
  intro result
  have hresult : result = ofFixture path verbose (.ok bytes) := ofArguments_render h hread
  by_cases hok : ∃ text stack, text.toUTF8 = bytes ∧ parse text = .ok stack
  · have haccepted : ∀ text stack, text.toUTF8 = bytes → parse text = .ok stack →
        result = ⟨1, stack.report verbose ++ "\n", ""⟩ := by
      intro text stack hbytes hparse
      rw [hresult, ofFixture_of_ok hbytes hparse]
    have hcode : result.exitCode = 1 := by
      obtain ⟨text, stack, hbytes, hparse⟩ := hok
      rw [haccepted text stack hbytes hparse]
    refine ⟨iff_of_true hcode hok, ?_, fun hne => absurd hcode hne, by rw [hcode]; decide⟩
    intro text stack hbytes hparse
    have hstdout : result.stdout = stack.report verbose ++ "\n" := by
      rw [haccepted text stack hbytes hparse]
    refine ⟨hstdout, ?_⟩
    intro hverbose ls hls messages
    obtain rfl := Text.consistsOf_iff.mp hls
    have hlines : result.stdout.toList = messages.flatMap (· ++ ['\n']) := by
      rw [hstdout, hverbose]
      exact toList_report hparse
    -- no message has a line feed of its own
    have hfeed : ∀ message ∈ messages, '\n' ∉ message := by
      intro message hmessage
      obtain ⟨line, hline, rfl⟩ := List.mem_map.mp hmessage
      exact feed_notMem_messageOf hline
    refine ⟨hlines, ?_⟩
    rw [hlines]
    exact Text.splitOn_flatMap hfeed
  · obtain ⟨reason, hrefused⟩ := ofFixture_of_not_ok path verbose hok
    rw [← hresult] at hrefused
    have hcode : result.exitCode = 2 := by rw [hrefused]
    refine ⟨?_, fun text stack hbytes hparse => absurd ⟨text, stack, hbytes, hparse⟩ hok,
      fun _ => ⟨hcode, by rw [hrefused], reason, by rw [hrefused]⟩, by rw [hcode]; decide⟩
    rw [hcode]
    exact iff_of_false (by decide) hok

/-- A file with a comment, a blank line, a carriage return inside a message, and a message
that is empty, which stands on the last line, without an ending. -/
def oddFile : String := "# a | b\r\n\n - | c\rd | e\nvalue x |"

theorem oddFile_rendered :
    let read : String → Except ReadError ByteArray := fun _ => .ok oddFile.toUTF8
    let arguments := ["render", "--verbose-errors", "odd"]
    Invocation.ofArguments arguments = .ok (.render "odd" true) ∧
      read "odd" = .ok oddFile.toUTF8 ∧
      (ofArguments read arguments).exitCode = 1 ∧
      (ofArguments read arguments).stdout = "c\rd | e\n\n" ∧
      (ofArguments read arguments).stdout.toList.splitOn '\n' = ["c\rd | e".toList, [], []] := by
  intro read arguments
  have hinvocation : Invocation.ofArguments arguments = .ok (.render "odd" true) := by rfl
  have hread : read "odd" = .ok oddFile.toUTF8 := rfl
  have hparse : parse oddFile =
      .ok ⟨⟨"c\rd | e", none⟩, [⟨"", some (.value (.var ⟨none, "x"⟩))⟩]⟩ := by rfl
  have hmessages : (significant (Text.lines oddFile.toList)).map messageOf =
      ["c\rd | e".toList, []] := by rfl
  obtain ⟨hcode, haccepted, -, -⟩ := render_endToEnd hinvocation hread
  obtain ⟨hstdout, hfull⟩ := haccepted oddFile _ rfl hparse
  obtain ⟨-, hsplit⟩ := hfull rfl _ (Text.consistsOf_lines oddFile.toList)
  rw [hmessages] at hsplit
  exact ⟨hinvocation, hread, hcode.mpr ⟨oddFile, _, rfl, hparse⟩, hstdout, hsplit⟩

end ProgramResult

end TypingSession

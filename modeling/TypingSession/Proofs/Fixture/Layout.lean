import Mathlib.Logic.Relation
import TypingSession.Proofs.Fixture.Grammar

/-!
# TypingSession — layout of fixtures

Much of a fixture is there for its readers: how the lines end, what is blank at their ends and
around the bar, and the lines that are blank or comments. A text can be laid out in another
way (`Relaid`) line by line (`RelaidLine`), and as often as one likes, and nothing of it shows
in what is read. A failure stays the same, and so does a fault, with its line number and with
the tag or the name that it cites.

A line is read by itself (`readLine`), so the lines can be compared one by one. Which lines
there are is told most easily by cutting the text at every line feed. This leaves a carriage
return at the end of some lines, which is a blank, and an empty line behind the last feed.

* `parseLines_congr` — only what the single lines are read as matters.
* `parseLines_fields` — cutting at the line feeds comes to the same as reading the lines.
* `readLine_of_relaid` — a line that is laid out in another way is read the same.
* `parse_of_relaid` — and so is a text.
-/

namespace TypingSession.Fixture

open Text (fields trim isBlank)

/-! ## Changes of the layout -/

/-- Blanks that end no line. -/
def Padding (l : List Char) : Prop := ∀ c ∈ l, isBlank c = true ∧ c ≠ '\n'

instance : DecidablePred Padding := fun l =>
  decidable_of_iff (l.all fun c => isBlank c && c != '\n') (by simp [Padding])

/-- A line is there for no frame: it is blank, or a comment behind blanks. -/
inductive Idle : List Char → Prop where
  | blank {blanks : List Char} (h : Padding blanks) : Idle blanks
  | comment {blanks comment : List Char} (h : Padding blanks) (hfeed : '\n' ∉ comment) :
    Idle (blanks ++ '#' :: comment)

/-- A line is laid out in another way: with other blanks at its ends, or with more blanks on
the two sides of its first bar, or as another blank line or comment if it is one. -/
inductive RelaidLine : List Char → List Char → Prop where
  | ends {before after before' after' : List Char} (line : List Char) (hbefore : Padding before)
    (hafter : Padding after) (hbefore' : Padding before') (hafter' : Padding after') :
    RelaidLine (before ++ (line ++ after)) (before' ++ (line ++ after'))
  | bar {front before after : List Char} (hbar : '|' ∉ front) (hbefore : Padding before)
    (hafter : Padding after) (back : List Char) :
    RelaidLine (front ++ '|' :: back) ((front ++ before) ++ '|' :: (after ++ back))
  | idle {line line' : List Char} (h : Idle line) (h' : Idle line') : RelaidLine line line'

theorem RelaidLine.refl (line : List Char) : RelaidLine line line := by
  have hnone : Padding [] := by decide
  simpa using RelaidLine.ends line hnone hnone hnone hnone

/-- A text is laid out in another way: with a carriage return in front of every line feed, or
with any of its lines laid out in another way, or with one more line feed at its end. -/
inductive Relaid : String → String → Prop where
  | returns (text : String) :
    Relaid text (.ofList (text.toList.flatMap fun c => if c = '\n' then ['\r', '\n'] else [c]))
  | lines {text : String} {ls : List (List Char)}
    (h : List.Forall₂ RelaidLine (fields '\n' text.toList) ls) :
    Relaid text (.ofList (['\n'].intercalate ls))
  | feed (text : String) : Relaid text (text ++ "\n")

/-! ## Reading line by line -/

/-- What a line is read as: a frame, or none if it is there for no frame. -/
def readLine (raw : List Char) : Except LineError (Option Frame) :=
  if isSignificant (trim raw) then (parseFrame (trim raw)).map some else .ok none

theorem parseLines_cons (n : Nat) (raw : List Char) (rest : List (List Char)) :
    parseLines n (raw :: rest) =
      match readLine raw with
      | .error e => .error (.line n e)
      | .ok none => parseLines (n + 1) rest
      | .ok (some f) => (parseLines (n + 1) rest).map (f :: ·) := by
  rw [parseLines, readLine]
  cases isSignificant (trim raw) with
  | false => rfl
  | true => cases parseFrame (trim raw) <;> rfl

theorem parseLines_congr {ls ls' : List (List Char)}
    (h : List.Forall₂ (fun l l' => readLine l = readLine l') ls ls') (n : Nat) :
    parseLines n ls = parseLines n ls' := by
  induction h generalizing n with
  | nil => rfl
  | cons hline _ ih => rw [parseLines_cons, parseLines_cons, hline, ih (n + 1)]

theorem readLine_congr {l l' : List Char} (h : trim l = trim l') : readLine l = readLine l' := by
  rw [readLine, readLine, h]

theorem readLine_return (l : List Char) : readLine (l ++ ['\r']) = readLine l :=
  readLine_congr (Text.trim_append_blank (List.forall_mem_singleton.mpr (by decide)) l)

/-- An empty line behind the others changes nothing. -/
theorem parseLines_concat_nil (n : Nat) (ls : List (List Char)) :
    parseLines n (ls ++ [[]]) = parseLines n ls := by
  cases h : parseLines n ls with
  | error x => exact parseLines_append_error h [[]]
  | ok frames =>
    rw [parseLines_append_ok h]
    show Except.ok (frames ++ []) = Except.ok frames
    rw [List.append_nil]

theorem fields_feed {line : List Char} (hfeed : '\n' ∉ line) (rest : List Char) :
    fields '\n' (line ++ '\n' :: rest) = line :: fields '\n' rest := by
  rw [Text.fields_append_sep, Text.fields_of_notMem hfeed, List.singleton_append]

/-- The lines of a text can be had by cutting it at the line feeds. -/
theorem parseLines_fields (n : Nat) (text : List Char) :
    parseLines n (Text.lines text) = parseLines n (fields '\n' text) := by
  have htext := Text.consistsOf_lines text
  generalize Text.lines text = ls at htext ⊢
  induction htext generalizing n with
  | empty =>
    -- where no line is left, the cut has an empty one
    rfl
  | unended _ hfeed => rw [Text.fields_of_notMem hfeed]
  | feed hfeed _ _ ih => rw [fields_feed hfeed, parseLines_cons, parseLines_cons, ih (n + 1)]
  | @returnFeed line rest more hfeed _ ih =>
    -- the cut leaves the carriage return to the line, where trimming takes it
    have hfeed' : '\n' ∉ line ++ ['\r'] := by simp [hfeed]
    have hfields := fields_feed hfeed' rest
    rw [List.append_assoc, List.singleton_append] at hfields
    rw [hfields, parseLines_cons, parseLines_cons, readLine_return, ih (n + 1)]

theorem parse_congr {text text' : String}
    (h : parseLines 1 (fields '\n' text.toList) = parseLines 1 (fields '\n' text'.toList)) :
    parse text = parse text' := by
  rw [parse, parse, parseLines_fields, parseLines_fields, h]

/-! ## Lines -/

theorem Padding.blank {l : List Char} (h : Padding l) : ∀ c ∈ l, isBlank c = true :=
  fun c hc => (h c hc).1

theorem Padding.feed_notMem {l : List Char} (h : Padding l) : '\n' ∉ l :=
  fun hmem => (h '\n' hmem).2 rfl

/-- What a line with a bar is read as depends on the two sides of the bar, trimmed. -/
theorem readLine_bar {front : List Char} (hbar : '|' ∉ front) (back : List Char) :
    readLine (front ++ '|' :: back) =
      if (trim front).head? = some '#' then .ok none
      else
        match parseSource (trim front) with
        | .error e => .error e
        | .ok s => .ok (some ⟨String.ofList (trim back), s⟩) := by
  have hline : trim (front ++ '|' :: back) = Text.trimStart front ++ '|' :: Text.trimEnd back :=
    Text.trim_append_cons (by decide) front back
  have hstart : '|' ∉ Text.trimStart front := fun hmem =>
    hbar ((List.dropWhile_sublist isBlank).mem hmem)
  have hsignificant : isSignificant (Text.trimStart front ++ '|' :: Text.trimEnd back) =
      ((trim front).head? != some '#') := by
    rw [Text.head?_trim]
    -- if only blanks stand in front of the bar, it is the bar that the line begins with
    cases Text.trimStart front with
    | nil => rfl
    | cons c rest => rfl
  rw [readLine, hline, hsignificant, parseFrame_bar hstart, Text.trim_trimStart, Text.trim_trimEnd]
  by_cases hcomment : (trim front).head? = some '#'
  · simp [hcomment]
  · cases parseSource (trim front) <;> simp [hcomment, Except.map]

theorem readLine_idle {line : List Char} (h : Idle line) : readLine line = .ok none := by
  cases h with
  | blank h =>
    have htrim : trim line = [] := by
      rw [← List.append_nil line, Text.trim_blank_append h.blank]
      rfl
    rw [readLine, htrim]
    rfl
  | @comment blanks comment h _ =>
    have htrim : trim (blanks ++ '#' :: comment) = '#' :: Text.trimEnd comment := by
      rw [Text.trim_blank_append h.blank]
      exact Text.trim_append_cons (by decide) [] comment
    rw [readLine, htrim]
    rfl

/-- A line that is laid out in another way is read the same. -/
theorem readLine_of_relaid {line line' : List Char} (h : RelaidLine line line') :
    readLine line' = readLine line := by
  cases h with
  | ends _ hbefore hafter hbefore' hafter' =>
    refine readLine_congr ?_
    rw [Text.trim_blank_append hbefore'.blank, Text.trim_append_blank hafter'.blank,
      Text.trim_blank_append hbefore.blank, Text.trim_append_blank hafter.blank]
  | @bar front before after hbar hbefore hafter back =>
    -- a bar is not blank, so the first bar is the same
    have hbar' : '|' ∉ front ++ before := by
      rw [List.mem_append]
      rintro (hmem | hmem)
      · exact hbar hmem
      · exact absurd (hbefore.blank '|' hmem) (by decide)
    rw [readLine_bar hbar', readLine_bar hbar, Text.trim_append_blank hbefore.blank,
      Text.trim_blank_append hafter.blank]
  | idle hidle hidle' => rw [readLine_idle hidle, readLine_idle hidle']

theorem Idle.feed_notMem {line : List Char} (h : Idle line) : '\n' ∉ line := by
  cases h with
  | blank h => exact h.feed_notMem
  | comment h hfeed => simp [h.feed_notMem, hfeed]

theorem RelaidLine.feed_notMem {line line' : List Char} (h : RelaidLine line line')
    (hfeed : '\n' ∉ line) : '\n' ∉ line' := by
  cases h with
  | ends _ _ _ hbefore' hafter' =>
    simp only [List.mem_append, not_or] at hfeed ⊢
    exact ⟨hbefore'.feed_notMem, hfeed.2.1, hafter'.feed_notMem⟩
  | bar _ hbefore hafter _ =>
    rw [List.mem_append, List.mem_cons] at hfeed
    simpa [hbefore.feed_notMem, hafter.feed_notMem] using hfeed
  | idle _ hidle' => exact hidle'.feed_notMem

/-! ## Texts -/

theorem feed_notMem_of_relaid {ls ls' : List (List Char)} (h : List.Forall₂ RelaidLine ls ls')
    (hfeed : ∀ line ∈ ls, '\n' ∉ line) : ∀ line ∈ ls', '\n' ∉ line := by
  induction h with
  | nil => exact hfeed
  | cons hline _ ih =>
    rw [List.forall_mem_cons] at hfeed ⊢
    exact ⟨hline.feed_notMem hfeed.1, ih hfeed.2⟩

/-- A carriage return in front of each line feed is one at the end of each line but the last. -/
theorem fields_returns (text : List Char) :
    List.Forall₂ (fun l l' => l' = l ∨ l' = l ++ ['\r']) (fields '\n' text)
      (fields '\n' (text.flatMap fun c => if c = '\n' then ['\r', '\n'] else [c])) := by
  induction text with
  | nil => exact .cons (Or.inl rfl) .nil
  | cons c rest ih =>
    rw [List.flatMap_cons]
    by_cases hc : c = '\n'
    · subst hc
      exact .cons (Or.inr rfl) ih
    · rw [if_neg hc, List.singleton_append, fields, fields, if_neg hc, if_neg hc]
      generalize fields '\n' rest = ls at ih ⊢
      generalize fields '\n' (rest.flatMap _) = ls' at ih ⊢
      -- the first lines of the two texts both begin with the character
      cases ih with
      | nil => exact .cons (Or.inl rfl) .nil
      | cons hfirst hmore =>
        refine .cons ?_ hmore
        rcases hfirst with rfl | rfl
        · exact Or.inl rfl
        · exact Or.inr rfl

/-- One change of the layout leaves what is read as it is. -/
theorem parse_of_step {text text' : String} (h : Relaid text text') : parse text = parse text' := by
  refine parse_congr ?_
  cases h with
  | returns =>
    rw [String.toList_ofList]
    refine parseLines_congr ((fields_returns text.toList).imp fun l l' h => ?_) 1
    rcases h with rfl | rfl
    · rfl
    · exact (readLine_return l).symm
  | @lines ls h =>
    have hfeed := feed_notMem_of_relaid h fun _ hline => Text.notMem_of_mem_fields hline
    have hne : ls ≠ [] := by
      rintro rfl
      exact Text.fields_ne_nil '\n' text.toList (List.forall₂_nil_right_iff.mp h)
    rw [String.toList_ofList, Text.fields_intercalate hne hfeed]
    exact parseLines_congr (h.imp fun _ _ h => (readLine_of_relaid h).symm) 1
  | feed =>
    have hfields : fields '\n' (text.toList ++ ['\n']) = fields '\n' text.toList ++ [[]] :=
      Text.fields_append_sep '\n' text.toList []
    have htext : (text ++ "\n").toList = text.toList ++ ['\n'] := by simp
    rw [htext, hfields, parseLines_concat_nil]

/-- **Layout does not matter.** A text can be laid out in another way by any number of changes,
made or taken back: carriage returns in front of all line feeds, blanks at the ends of any lines
and on the two sides of their first bars, other contents of blank lines and of comments, and a
line feed at the very end. The same failure is read from it, or it is refused for the same
line, with the same tag or name to blame. -/
theorem parse_of_relaid {text text' : String} (h : Relation.EqvGen Relaid text text') :
    parse text = parse text' := by
  -- what each single change keeps is kept by any number of them, back and forth
  induction h with
  | rel _ _ h => exact parse_of_step h
  | refl => rfl
  | symm _ _ _ ih => exact ih.symm
  | trans _ _ _ _ _ ih ih' => exact ih.trans ih'

/-- A text with a fault behind two frames and a comment, and the same text with all of its lines
but the second laid out in another way, then with carriage returns, and then with a last line
feed. -/
theorem relaid_blames :
    let plain := "value Main.x|m\n- | k\n# c\nkind *|n"
    let styled := "value Main.x \t| m\r\n- | k\r\n\r\n\u2003kind *|n \n"
    Relation.EqvGen Relaid plain styled ∧
      parse styled = .error (.line 4 (.unknownSource "kind *")) := by
  intro plain styled
  have hfields : fields '\n' plain.toList =
      ["value Main.x|m".toList, "- | k".toList, "# c".toList, "kind *|n".toList] := by decide
  have hnone : Padding [] := by decide
  have hspace : Padding " ".toList := by decide
  -- the comment is turned into a blank line
  have hlines : List.Forall₂ RelaidLine (fields '\n' plain.toList)
      ["value Main.x \t| m".toList, "- | k".toList, [], "\u2003kind *|n ".toList] := by
    rw [hfields]
    refine .cons ?_ (.cons (.refl _) (.cons ?_ (.cons ?_ .nil)))
    · have hbar : '|' ∉ "value Main.x".toList := by decide
      have hbefore : Padding " \t".toList := by decide
      exact .bar hbar hbefore hspace "m".toList
    · have hcomment : '\n' ∉ " c".toList := by decide
      exact .idle (.comment hnone hcomment) (.blank hnone)
    · have hbefore : Padding "\u2003".toList := by decide
      exact .ends "kind *|n".toList hnone hnone hbefore hspace
  have hspaced : Relaid plain "value Main.x \t| m\n- | k\n\n\u2003kind *|n " := .lines hlines
  have hreturned : Relaid "value Main.x \t| m\n- | k\n\n\u2003kind *|n "
      "value Main.x \t| m\r\n- | k\r\n\r\n\u2003kind *|n " := .returns _
  have hended : Relaid "value Main.x \t| m\r\n- | k\r\n\r\n\u2003kind *|n " styled := .feed _
  have hrelaid : Relation.EqvGen Relaid plain styled :=
    .trans _ _ _ (.rel _ _ hspaced) (.trans _ _ _ (.rel _ _ hreturned) (.rel _ _ hended))
  have hplain : parse plain = .error (.line 4 (.unknownSource "kind *")) := by
    decide +kernel
  exact ⟨hrelaid, (parse_of_relaid hrelaid).symm.trans hplain⟩

end TypingSession.Fixture

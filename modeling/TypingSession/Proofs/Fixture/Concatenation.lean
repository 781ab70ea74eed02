import TypingSession.Proofs.Fixture.Grammar

/-!
# TypingSession — fixtures one after the other

Reading a text piece by piece gives nothing new. Behind complete lines the splitting starts
anew and only the numbers of the lines go on, so what two texts give together is determined
by what each gives alone: the first fault counts, and without one the frames of both do. A
piece without frames adds none, though alone it would be refused as empty.

* `parseLines_later` — the number of the first line is added to the number to blame, and
  matters for nothing else.
* `parse_append` — what is read from two texts together.
-/

namespace TypingSession

/-- What is wrong with a fixture, with more lines in front of it. -/
def FixtureError.later (k : Nat) : FixtureError → FixtureError
  | line number error => line (number + k) error
  | empty => empty
  | unreadable path reason => unreadable path reason

namespace Fixture

/-- What is read from two texts together, from what is read from each. -/
def followedBy : Except FixtureError ErrorStack → Except FixtureError ErrorStack →
    Except FixtureError ErrorStack
  | .error .empty, second => second
  | .error x, _ => .error x
  | .ok s, .error .empty => .ok s
  | .ok _, .error x => .error x
  | .ok s, .ok t => .ok (s ++ t)

theorem parseLines_later (ls : List (List Char)) (n k : Nat) :
    parseLines (n + k) ls = (parseLines n ls).mapError (·.later k) := by
  induction ls generalizing n with
  | nil => rfl
  | cons raw rest ih =>
    have hnext : n + k + 1 = n + 1 + k := by omega
    rcases line_cases (Text.trim raw) with hskip | ⟨hsignificant, f, hf⟩ | ⟨hsignificant, e, he⟩
    · rw [parseLines_skip hskip, parseLines_skip hskip, hnext, ih]
    · rw [parseLines_describes hsignificant hf, parseLines_describes hsignificant hf, hnext, ih]
      cases parseLines (n + 1) rest <;> rfl
    · rw [parseLines_faulty hsignificant he, parseLines_faulty hsignificant he]
      rfl

section Outcomes

variable {text : String}

theorem parse_of_error {x : FixtureError}
    (h : parseLines 1 (Text.lines text.toList) = .error x) : parse text = .error x :=
  parse_eq_error_iff.mpr (Or.inl h)

theorem parse_of_nil (h : parseLines 1 (Text.lines text.toList) = .ok []) :
    parse text = .error .empty :=
  parse_eq_error_iff.mpr (Or.inr ⟨h, rfl⟩)

theorem parse_of_cons {f : Frame} {rest : List Frame}
    (h : parseLines 1 (Text.lines text.toList) = .ok (f :: rest)) : parse text = .ok ⟨f, rest⟩ :=
  parse_eq_ok_iff.mpr h

end Outcomes

/-- The lines of the first text are read, then those of the second with their numbers moved
on by as many line feeds as the first has. -/
theorem parseLines_append {first : String} (h : Text.Ended first.toList) (second : String) :
    parseLines 1 (Text.lines (first ++ second).toList) =
      match parseLines 1 (Text.lines first.toList) with
      | .error x => .error x
      | .ok frames =>
        ((parseLines 1 (Text.lines second.toList)).mapError
          (·.later (first.toList.count '\n'))).map (frames ++ ·) := by
  rw [String.toList_append, Text.lines_append h]
  cases hfirst : parseLines 1 (Text.lines first.toList) with
  | error x => exact parseLines_append_error hfirst _
  | ok frames => rw [parseLines_append_ok hfirst, Text.length_lines h, parseLines_later]

/-- What two texts give together, if the first has complete lines: what is read from one
followed by what is read from the other, with the line feeds of the first added to its line
numbers. -/
theorem parse_append {first : String} (h : Text.Ended first.toList) (second : String) :
    parse (first ++ second) =
      followedBy (parse first) ((parse second).mapError (·.later (first.toList.count '\n'))) := by
  have htogether := parseLines_append h second
  cases hfirst : parseLines 1 (Text.lines first.toList) with
  | error x =>
    rw [hfirst] at htogether
    rw [parse_of_error hfirst, parse_of_error htogether]
    -- no text is refused as empty for one of its lines
    obtain ⟨k, e, -, rfl⟩ := parseLines_eq_error_iff.mp hfirst
    rfl
  | ok frames =>
    rw [hfirst] at htogether
    cases hsecond : parseLines 1 (Text.lines second.toList) with
    | error x =>
      rw [hsecond] at htogether
      rw [parse_of_error hsecond, parse_of_error htogether]
      obtain ⟨k, e, -, rfl⟩ := parseLines_eq_error_iff.mp hsecond
      cases frames with
      | nil => rw [parse_of_nil hfirst]; rfl
      | cons f rest => rw [parse_of_cons hfirst]; rfl
    | ok more =>
      rw [hsecond] at htogether
      -- either text may have no frames, which says nothing about the other
      cases frames with
      | nil =>
        rw [parse_of_nil hfirst]
        cases more with
        | nil => rw [parse_of_nil hsecond, parse_of_nil htogether]; rfl
        | cons g more => rw [parse_of_cons hsecond, parse_of_cons htogether]; rfl
      | cons f rest =>
        rw [parse_of_cons hfirst, parse_of_cons htogether]
        cases more with
        | nil =>
          have hinner : rest.append [] = rest := List.append_nil rest
          rw [parse_of_nil hsecond, hinner]
          rfl
        | cons g more => rw [parse_of_cons hsecond]; rfl

theorem parse_append_blames :
    Text.Ended "- | a\n\n".toList ∧
      parse ("- | a\n\n" ++ "- | b\nvalue x\n") = .error (.line 4 .missingSeparator) := by
  have hended : Text.Ended "- | a\n\n".toList := Or.inr (by decide)
  have hfirst : parse "- | a\n\n" = .ok ⟨⟨"a", none⟩, []⟩ := by rfl
  have hsecond : parse "- | b\nvalue x\n" = .error (.line 2 .missingSeparator) := by rfl
  have hcount : "- | a\n\n".toList.count '\n' = 2 := by decide
  refine ⟨hended, ?_⟩
  rw [parse_append hended, hfirst, hsecond, hcount]
  rfl

end Fixture

end TypingSession

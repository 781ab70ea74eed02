import Mathlib.Data.List.Basic
import TypingSession.Text.Split

/-!
# TypingSession — the lines of a text

What the lines of a text are can be said without splitting anything: put each behind the
other, with its ending, and they give the text (`ConsistsOf`). A line ends at a line feed,
together with a carriage return in front of it if there is one; the last line may lack its
ending, if it is not empty. Every text consists of lines in exactly one way.

* `consistsOf_iff` — a text consists of the lines that splitting it gives, and of no others.
* `lines_append` — behind a complete line the splitting starts anew.
-/

namespace TypingSession.Text

/-- A text consists of lines. -/
inductive ConsistsOf : List Char → List (List Char) → Prop where
  | empty : ConsistsOf [] []
  | unended {line : List Char} (hne : line ≠ []) (hfeed : '\n' ∉ line) : ConsistsOf line [line]
  | feed {line rest : List Char} {more : List (List Char)} (hfeed : '\n' ∉ line)
    (hreturn : line.getLast? ≠ some '\r') (h : ConsistsOf rest more) :
    ConsistsOf (line ++ '\n' :: rest) (line :: more)
  | returnFeed {line rest : List Char} {more : List (List Char)} (hfeed : '\n' ∉ line)
    (h : ConsistsOf rest more) : ConsistsOf (line ++ '\r' :: '\n' :: rest) (line :: more)

/-! ## Splitting -/

/-- A character that begins no ending is the first of its line. -/
theorem lines_cons {c : Char} {rest : List Char} (hc : c ≠ '\n')
    (hreturn : c = '\r' → rest.head? ≠ some '\n') :
    lines (c :: rest) = match lines rest with
      | [] => [[c]]
      | line :: more => (c :: line) :: more := by
  have hnot (after : List Char) (heq : c = '\r') (hrest : rest = '\n' :: after) : False := by
    subst hrest
    exact hreturn heq rfl
  exact lines.eq_4 c rest hc hnot

theorem lines_unended {line : List Char} (hne : line ≠ []) (hfeed : '\n' ∉ line) :
    lines line = [line] := by
  induction line with
  | nil => exact absurd rfl hne
  | cons c rest ih =>
    have hc : c ≠ '\n' := fun h => hfeed (h ▸ List.mem_cons_self)
    have hrest : '\n' ∉ rest := fun h => hfeed (List.mem_cons_of_mem c h)
    rw [lines_cons hc fun _ h => hrest (List.mem_of_mem_head? h)]
    cases rest with
    | nil => rfl
    | cons d more => rw [ih (List.cons_ne_nil d more) hrest]

theorem lines_feed {line : List Char} (hfeed : '\n' ∉ line) (hreturn : line.getLast? ≠ some '\r')
    (rest : List Char) : lines (line ++ '\n' :: rest) = line :: lines rest := by
  induction line with
  | nil => rfl
  | cons c more ih =>
    have hc : c ≠ '\n' := fun h => hfeed (h ▸ List.mem_cons_self)
    have hmore : '\n' ∉ more := fun h => hfeed (List.mem_cons_of_mem c h)
    have hnext : c = '\r' → (more ++ '\n' :: rest).head? ≠ some '\n' := by
      rintro rfl hhead
      cases more with
      | nil => exact hreturn rfl
      | cons d _ => exact hmore (List.mem_of_mem_head? hhead)
    have hlast : more.getLast? ≠ some '\r' := by
      intro h
      rw [List.getLast?_cons, h] at hreturn
      exact hreturn rfl
    rw [List.cons_append, lines_cons hc hnext, ih hmore hlast]

theorem lines_returnFeed {line : List Char} (hfeed : '\n' ∉ line) (rest : List Char) :
    lines (line ++ '\r' :: '\n' :: rest) = line :: lines rest := by
  induction line with
  | nil => rfl
  | cons c more ih =>
    have hc : c ≠ '\n' := fun h => hfeed (h ▸ List.mem_cons_self)
    have hmore : '\n' ∉ more := fun h => hfeed (List.mem_cons_of_mem c h)
    have hnext : c = '\r' → (more ++ '\r' :: '\n' :: rest).head? ≠ some '\n' := by
      rintro rfl hhead
      cases more with
      | nil => exact absurd hhead (by simp)
      | cons d _ => exact hmore (List.mem_of_mem_head? hhead)
    rw [List.cons_append, lines_cons hc hnext, ih hmore]

theorem ConsistsOf.lines_eq {text : List Char} {ls : List (List Char)} (h : ConsistsOf text ls) :
    lines text = ls := by
  induction h with
  | empty => rfl
  | unended hne hfeed => exact lines_unended hne hfeed
  | feed hfeed hreturn _ ih => rw [lines_feed hfeed hreturn, ih]
  | returnFeed hfeed _ ih => rw [lines_returnFeed hfeed, ih]

/-- A character in front that begins no ending is a part of the first line. -/
theorem ConsistsOf.cons {c : Char} {rest line : List Char} {more : List (List Char)}
    (hc : c ≠ '\n') (hreturn : c = '\r' → rest.head? ≠ some '\n')
    (h : ConsistsOf rest (line :: more)) : ConsistsOf (c :: rest) ((c :: line) :: more) := by
  have hfeed_cons {l : List Char} (hfeed : '\n' ∉ l) : '\n' ∉ c :: l := by
    intro hmem
    rcases List.mem_cons.mp hmem with heq | hmem
    · exact hc heq.symm
    · exact hfeed hmem
  cases h with
  | unended hne hfeed => exact .unended (List.cons_ne_nil c rest) (hfeed_cons hfeed)
  | returnFeed hfeed h => exact .returnFeed (hfeed_cons hfeed) h
  | feed hfeed hlast h =>
    have hlast' : (c :: line).getLast? ≠ some '\r' := by
      cases line with
      | nil =>
        -- a carriage return would be a part of the ending
        intro heq
        exact hreturn (by simpa using heq) rfl
      | cons d l => exact hlast
    exact .feed (hfeed_cons hfeed) hlast' h

theorem consistsOf_lines (text : List Char) : ConsistsOf text (lines text) := by
  fun_induction lines text with
  | case1 => exact .empty
  | case2 rest ih =>
    have hnil : '\n' ∉ ([] : List Char) := List.not_mem_nil
    exact .feed hnil (by simp) ih
  | case3 rest ih =>
    have hnil : '\n' ∉ ([] : List Char) := List.not_mem_nil
    exact .returnFeed hnil ih
  | case4 c rest hc hreturn hnil ih =>
    -- a text without lines is empty
    rw [hnil] at ih
    cases ih
    exact .unended (List.cons_ne_nil c []) (by simpa using Ne.symm hc)
  | case5 c rest hc hreturn line more hlines ih =>
    rw [hlines] at ih
    refine ih.cons hc ?_
    intro heq hhead
    obtain ⟨tail, rfl⟩ := List.head?_eq_some_iff.mp hhead
    exact hreturn tail heq rfl

/-- A text consists of the lines that splitting it gives, and of no others. -/
theorem consistsOf_iff {text : List Char} {ls : List (List Char)} :
    ConsistsOf text ls ↔ lines text = ls := by
  refine ⟨ConsistsOf.lines_eq, ?_⟩
  rintro rfl
  exact consistsOf_lines text

theorem feed_notMem_of_mem_lines {text line : List Char} (h : line ∈ lines text) :
    '\n' ∉ line := by
  have htext := consistsOf_lines text
  generalize lines text = ls at h htext
  induction htext with
  | empty => exact absurd h List.not_mem_nil
  | unended _ hfeed =>
    rw [List.mem_singleton.mp h]
    exact hfeed
  | feed hfeed _ _ ih | returnFeed hfeed _ ih =>
    rcases List.mem_cons.mp h with rfl | h
    · exact hfeed
    · exact ih h

/-! ## Complete lines -/

/-- No line of a text lacks its ending. -/
def Ended (text : List Char) : Prop := text = [] ∨ text.getLast? = some '\n'

theorem Ended.of_append_feed {line rest : List Char} (h : Ended (line ++ '\n' :: rest)) :
    Ended rest := by
  have hlast : (line ++ '\n' :: rest).getLast? = some '\n' := h.resolve_left (by simp)
  cases rest with
  | nil => exact Or.inl rfl
  | cons c more =>
    rw [List.getLast?_append_of_ne_nil line (List.cons_ne_nil _ _)] at hlast
    exact Or.inr hlast

theorem Ended.of_append_returnFeed {line rest : List Char}
    (h : Ended (line ++ '\r' :: '\n' :: rest)) : Ended rest := by
  have hfeed : Ended (line ++ ['\r'] ++ '\n' :: rest) := by
    rw [List.append_assoc]
    exact h
  exact hfeed.of_append_feed

/-- Behind complete lines the splitting starts anew. -/
theorem lines_append {text : List Char} (h : Ended text) (rest : List Char) :
    lines (text ++ rest) = lines text ++ lines rest := by
  have htext := consistsOf_lines text
  generalize lines text = ls at htext ⊢
  induction htext with
  | empty => rfl
  | unended hne hfeed =>
    have hlast := h.resolve_left hne
    exact absurd (List.mem_of_getLast? hlast) hfeed
  | feed hfeed hreturn _ ih =>
    rw [List.append_assoc, List.cons_append, lines_feed hfeed hreturn, ih h.of_append_feed]
    rfl
  | returnFeed hfeed _ ih =>
    rw [List.append_assoc, List.cons_append, List.cons_append, lines_returnFeed hfeed,
      ih h.of_append_returnFeed]
    rfl

/-- Each complete line has one line feed. -/
theorem length_lines {text : List Char} (h : Ended text) :
    (lines text).length = text.count '\n' := by
  have htext := consistsOf_lines text
  generalize lines text = ls at htext ⊢
  induction htext with
  | empty => rfl
  | unended hne hfeed =>
    have hlast := h.resolve_left hne
    exact absurd (List.mem_of_getLast? hlast) hfeed
  | feed hfeed hreturn _ ih =>
    rw [List.length_cons, ih h.of_append_feed, List.count_append, List.count_eq_zero_of_not_mem hfeed,
      List.count_cons_self, Nat.zero_add]
  | returnFeed hfeed _ ih =>
    have hreturn : '\r' ≠ '\n' := by decide
    rw [List.length_cons, ih h.of_append_returnFeed, List.count_append,
      List.count_eq_zero_of_not_mem hfeed, List.count_cons_of_ne hreturn, List.count_cons_self,
      Nat.zero_add]

/-- Lines of which none can be taken for a part of its ending are read back as they are. -/
theorem lines_flatMap_feed {ls : List (List Char)}
    (h : ∀ line ∈ ls, '\n' ∉ line ∧ line.getLast? ≠ some '\r') :
    lines (ls.flatMap (· ++ ['\n'])) = ls := by
  induction ls with
  | nil => rfl
  | cons line more ih =>
    obtain ⟨hfeed, hreturn⟩ := h line List.mem_cons_self
    have hmore := ih fun l hl => h l (List.mem_cons_of_mem line hl)
    rw [List.flatMap_cons, List.append_assoc, List.singleton_append, lines_feed hfeed hreturn, hmore]

end TypingSession.Text

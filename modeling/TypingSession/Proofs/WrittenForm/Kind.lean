import Std.Data.String.ToNat
import TypingSession.Kind
import TypingSession.Proofs.Text.Phrase

/-!
# TypingSession — written kinds are unambiguous

A kind that is no arrow has no arrow outside of parentheses, so the first one there parts the
argument of an arrow from its result. Argument and entry stand in parentheses just if they
are arrows. So a kind can be taken apart again, and no two kinds are written alike.
-/

namespace TypingSession

open Text (Nested Ends Bare enclosed)

namespace Kind

/-- A kind as it is written in front of an arrow or behind the sign of a row. -/
def operand (k : Kind) : List Char := (enclosed k.isArrow k.text).toList

@[simp] theorem toList_text_unknown (u : Nat) :
    (unknown u).text.toList = ['_'] ++ u.repr.toList := by
  simp [text]

@[simp] theorem toList_text_star : star.text.toList = ['*'] := rfl

@[simp] theorem toList_text_row (k : Kind) : (row k).text.toList = ['#', ' '] ++ k.operand := by
  simp [text, operand]

@[simp] theorem toList_text_function (a r : Kind) :
    (function a r).text.toList = (a.operand ++ [' ', '-']) ++ '>' :: ([' '] ++ r.text.toList) := by
  simp [text, operand]

/-! ## Arrows outside of parentheses -/

theorem ends_arrow : Ends ['>'] '>' := Or.inr (by decide)

/-- Parentheses match in a written kind, and if it is no arrow it has none outside of them. -/
theorem nested_text (k : Kind) :
    Nested [] k.text.toList ∧ (k.isArrow = false → Nested ['>'] k.text.toList) := by
  induction k with
  | unknown u =>
    have htext : Nested ['>'] (unknown u).text.toList := by
      rw [toList_text_unknown]
      exact (Nested.of_isPlain (by decide)).append ((Text.word_repr u).nested (by decide))
    exact ⟨htext.balanced, fun _ => htext⟩
  | star =>
    have htext : Nested ['>'] star.text.toList := Nested.of_isPlain (by decide)
    exact ⟨htext.balanced, fun _ => htext⟩
  | row k ih =>
    have hentry : Nested ['>'] k.operand := Text.nested_enclosed ih.1 ih.2
    have htext : Nested ['>'] (row k).text.toList := by
      rw [toList_text_row]
      exact (Nested.of_isPlain (by decide)).append hentry
    exact ⟨htext.balanced, fun _ => htext⟩
  | function a r iha ihr =>
    refine ⟨?_, nofun⟩
    have hargument : Nested [] a.operand := Text.nested_enclosed iha.1 fun _ => iha.1
    have harrow : Nested [] ([' ', '-'] ++ '>' :: [' ']) := Nested.of_isPlain (by decide)
    simpa using (hargument.append harrow).append ihr.1

/-- In front of its arrow, an argument has no arrow outside of parentheses. -/
theorem nested_argument (k : Kind) : Nested ['>'] (k.operand ++ [' ', '-']) := by
  have hoperand : Nested ['>'] k.operand := Text.nested_enclosed k.nested_text.1 k.nested_text.2
  exact hoperand.append (Nested.of_isPlain (by decide))

theorem text_ne_function {k : Kind} (h : k.isArrow = false) (a r : Kind) :
    k.text ≠ (function a r).text := by
  intro heq
  have hlist := congrArg String.toList heq
  rw [toList_text_function] at hlist
  exact (k.nested_text.2 h).ne_append_cons a.nested_argument.balanced ends_arrow hlist

/-! ## Taking a kind apart -/

theorem bare_text (k : Kind) : Bare k.text.toList := by
  cases k with
  | unknown | star | row => exact Text.bare_of_head (by simp)
  | function a r =>
    rw [toList_text_function]
    exact Text.bare_of_separator a.nested_argument.balanced (by decide)

theorem text_eq_of_operand_eq {k l : Kind} (h : k.operand = l.operand) : k.text = l.text :=
  Text.enclosed_inj k.nested_text.1 l.nested_text.1 k.bare_text l.bare_text h

/-- No two kinds are written alike. -/
theorem text_eq_iff_eq (k l : Kind) : k.text = l.text ↔ k = l := by
  refine ⟨fun h => ?_, congrArg text⟩
  -- what is no arrow is known by its first sign
  have hlist : k.text.toList = l.text.toList := congrArg String.toList h
  induction k generalizing l with
  | unknown u =>
    cases l with
    | unknown v =>
      simp only [toList_text_unknown, List.append_right_inj] at hlist
      rw [Nat.repr_inj.mp (String.toList_inj.mp hlist)]
    | star | row => simp at hlist
    | function a r => exact absurd h (text_ne_function rfl a r)
  | star =>
    cases l with
    | star => rfl
    | unknown | row => simp at hlist
    | function a r => exact absurd h (text_ne_function rfl a r)
  | row k ih =>
    cases l with
    | row l =>
      simp only [toList_text_row, List.append_right_inj] at hlist
      have htext : k.text = l.text := text_eq_of_operand_eq hlist
      rw [ih l htext (congrArg String.toList htext)]
    | unknown | star => simp at hlist
    | function a r => exact absurd h (text_ne_function rfl a r)
  | function a r iha ihr =>
    cases l with
    | unknown | star | row => exact absurd h.symm (text_ne_function rfl a r)
    | function b s =>
      -- both texts part at their first arrow
      rw [toList_text_function, toList_text_function] at hlist
      obtain ⟨hargument, hresult⟩ :=
        a.nested_argument.append_cons_inj b.nested_argument ends_arrow ends_arrow hlist
      have ha : a.text = b.text := text_eq_of_operand_eq (List.append_left_inj _ |>.mp hargument)
      have hr : r.text.toList = s.text.toList := by simpa using hresult
      rw [iha b ha (congrArg String.toList ha), ihr s (String.toList_inj.mp hr) hr]

end Kind

end TypingSession

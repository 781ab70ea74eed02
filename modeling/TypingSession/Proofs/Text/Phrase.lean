import TypingSession.Proofs.Text.Parentheses

/-!
# TypingSession — words and phrases

A word has none of the signs that stand between words or around them. A phrase is a word, or
it has a space outside of its parentheses. So a phrase is not in parentheses as a whole, and
those that are put around it are known for what they are; and where one phrase is applied to
another, with the argument in parentheses unless it is a word, the last space outside of
parentheses stands between the two.
-/

namespace TypingSession.Text

/-! ## Words -/

/-- The characters that stand between words or around them. -/
def signs : List Char := ['(', ')', ' ', '>', ':', '\\']

/-- A text without any signs. -/
def Word (l : List Char) : Prop := ∀ c ∈ l, c ∉ signs

namespace Word

variable {l m seps : List Char}

theorem append (hl : Word l) (hm : Word m) : Word (l ++ m) := List.forall_mem_append.mpr ⟨hl, hm⟩

theorem nested_of_notMem (h : Word l) (hseps : ∀ c ∈ seps, c ∉ l) : Nested seps l := by
  refine Nested.of_forall fun c hc => ⟨?_, ?_, fun hmem => hseps c hmem hc⟩
  · rintro rfl
    exact h _ hc (by decide)
  · rintro rfl
    exact h _ hc (by decide)

theorem nested (h : Word l) (hseps : seps.all signs.contains = true) : Nested seps l := by
  refine h.nested_of_notMem fun c hsep hc => h c hc ?_
  simpa using List.all_eq_true.mp hseps c hsep

theorem head_ne (h : Word l) {c : Char} (hc : c ∈ signs) : l.head? ≠ some c :=
  fun hhead => h c (List.mem_of_mem_head? hhead) hc

theorem bare (h : Word l) : Bare l := bare_of_head (h.head_ne (by decide))

end Word

/-- A number is a word. -/
theorem word_repr (n : Nat) : Word n.repr.toList := by
  intro c hc hsign
  rw [Nat.toList_repr] at hc
  have hdigit : c.isDigit = true := Nat.isDigit_of_mem_toDigits (by decide) (by decide) hc
  have hnone : signs.all (!·.isDigit) = true := by decide
  have hc : c.isDigit = false := by simpa using List.all_eq_true.mp hnone c hsign
  rw [hc] at hdigit
  cases hdigit

/-! ## Phrases -/

/-- A written term: its parentheses match, and it has a space outside of them unless it is a
word. -/
structure Phrase (isWord : Bool) (s : String) : Prop where
  balanced : Nested [] s.toList
  word : isWord = true → Word s.toList
  space : isWord = false → ∃ before after, Nested [] before ∧ s.toList = before ++ ' ' :: after

theorem ends_space : Ends [' '] ' ' := Or.inr (by decide)

namespace Phrase

variable {isWord isWord' : Bool} {s s' : String}

theorem isWord_iff (h : Phrase isWord s) : isWord = true ↔ Nested [' '] s.toList := by
  refine ⟨fun hword => (h.word hword).nested (by decide), fun hnested => ?_⟩
  by_contra hword
  obtain ⟨before, after, hbefore, hs⟩ := h.space (by simpa using hword)
  exact hnested.ne_append_cons hbefore ends_space hs

theorem isWord_eq (h : Phrase isWord s) (h' : Phrase isWord' s) : isWord = isWord' := by
  rw [Bool.eq_iff_iff, h.isWord_iff, h'.isWord_iff]

/-- A phrase may begin with a parenthesis, but does not end with that one's partner. -/
theorem bare (h : Phrase isWord s) : Bare s.toList := by
  cases hword : isWord with
  | true => exact (h.word hword).bare
  | false =>
    obtain ⟨before, after, hbefore, hs⟩ := h.space hword
    rw [hs]
    exact bare_of_separator hbefore (by decide)

theorem eq_of_enclosed_eq (h : Phrase isWord s) (h' : Phrase isWord' s') {needed needed' : Bool}
    (heq : (enclosed needed s).toList = (enclosed needed' s').toList) : s = s' :=
  enclosed_inj h.balanced h'.balanced h.bare h'.bare heq

/-- An argument is in parentheses unless it is a word, and so has no space outside of them. -/
theorem nested_argument (h : Phrase isWord s) : Nested [' '] (enclosed (!isWord) s).toList := by
  refine nested_enclosed h.balanced fun hword => ?_
  exact (h.word (by simpa using hword)).nested (by decide)

/-- An application parts into function and argument in one way only. -/
theorem eq_of_application_eq {wordF wordG wordA wordB needed needed' : Bool} {f g a b : String}
    (hf : Phrase wordF f) (hg : Phrase wordG g) (ha : Phrase wordA a) (hb : Phrase wordB b)
    (h : (enclosed needed f).toList ++ ' ' :: (enclosed (!wordA) a).toList =
      (enclosed needed' g).toList ++ ' ' :: (enclosed (!wordB) b).toList) : f = g ∧ a = b := by
  have hleft {s : String} {isWord needed : Bool} (h : Phrase isWord s) :
      Nested [] (enclosed needed s).toList := nested_enclosed h.balanced fun _ => h.balanced
  -- both texts part at their last space
  obtain ⟨hfunction, hargument⟩ :=
    (hleft hf).append_cons_inj_right (hleft hg) ha.nested_argument hb.nested_argument ends_space h
  exact ⟨hf.eq_of_enclosed_eq hg hfunction, ha.eq_of_enclosed_eq hb hargument⟩

end Phrase

end TypingSession.Text

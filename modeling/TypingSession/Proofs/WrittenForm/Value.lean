import TypingSession.Proofs.WrittenForm.Ty

/-!
# TypingSession — how far written expressions are ambiguous

An annotation stands bare behind its expression, and the body of a function bare behind its
arrow. So `\x -> x :: t` is written for a function with an annotated body, and for an
annotated function as well. Read as the first, which is how an expression that extends to
the right without end is read elsewhere, an annotation goes as far in as the functions do:
an expression is *settled* by moving all of its annotations there, and that leaves its
written form as it is.

This is the only ambiguity. Outside of parentheses, the first space of a function parts its
parameter from the body, the last colon of an annotation the expression from its type, and
the last space of an application its function from the argument.

* `Value.text_settle` — settling an expression does not show.
* `Value.eq_of_text_eq_of_settled` — settled expressions that are written alike are the same.
* `Value.text_eq_iff_settle_eq` — expressions are written alike just if they settle alike.
-/

namespace TypingSession

open Text (Nested Ends Word Phrase enclosed ends_space)

/-- How a text begins is decided by its first part, if that is not empty. -/
theorem Text.head_append_ne {l m : List Char} {c : Char} (hl : l.head? ≠ some c)
    (hm : m.head? ≠ some c) : (l ++ m).head? ≠ some c := by
  cases l with
  | nil => exact hm
  | cons d rest => exact hl

namespace Value

/-! ## Well-named expressions -/

/-- Variables and parameters are identifiers, only constructors are capitalized, types are
well-named, and there are no literals. -/
def WellNamed : Value → Prop
  | literal _ => False
  | var q => q.Representable ∧ isCapitalized q.name.toList = false
  | con q => q.Representable ∧ isCapitalized q.name.toList = true
  | app f a => f.WellNamed ∧ a.WellNamed
  | abs x body => isIdentifier x.toList = true ∧ body.WellNamed
  | typed v t => v.WellNamed ∧ t.WellNamed

instance decidableWellNamed : DecidablePred WellNamed
  | literal _ => inferInstanceAs (Decidable False)
  | var _ | con _ => inferInstanceAs (Decidable (_ ∧ _))
  | app f a => @instDecidableAnd _ _ (decidableWellNamed f) (decidableWellNamed a)
  | abs _ body => @instDecidableAnd _ _ _ (decidableWellNamed body)
  | typed v _ => @instDecidableAnd _ _ (decidableWellNamed v) _

/-! ## Settling -/

/-- An expression with an annotation, moved into the functions that it would stand behind. -/
def annotate : Value → Ty → Value
  | abs x body, t => abs x (body.annotate t)
  | v, t => typed v t

/-- An expression with all of its annotations moved into the functions they stand behind. -/
def settle : Value → Value
  | literal l => literal l
  | var q => var q
  | con q => con q
  | app f a => app f.settle a.settle
  | abs x body => abs x body.settle
  | typed v t => v.settle.annotate t

/-- Whether the expression is a function. -/
def isAbs : Value → Bool
  | abs _ _ => true
  | literal _ | var _ | con _ | app _ _ | typed _ _ => false

/-- No annotation stands behind a function. -/
def Settled : Value → Prop
  | literal _ | var _ | con _ => True
  | app f a => f.Settled ∧ a.Settled
  | abs _ body => body.Settled
  | typed v _ => v.isAbs = false ∧ v.Settled

/-! ## Written forms -/

/-- An expression as it is written in front of its argument. -/
def left (v : Value) : List Char := (enclosed v.isOpen v.text).toList

/-- An expression as it is written behind the function that is applied to it. -/
def argument (v : Value) : List Char := (enclosed (!v.isAtomic) v.text).toList

@[simp] theorem toList_text_app (f a : Value) :
    (app f a).text.toList = f.left ++ ' ' :: a.argument := by
  simp [text, left, argument]

@[simp] theorem toList_text_abs (x : String) (body : Value) :
    (abs x body).text.toList = '\\' :: (x.toList ++ ' ' :: ("-> ".toList ++ body.text.toList)) := by
  simp [text]

@[simp] theorem toList_text_typed (v : Value) (t : Ty) :
    (typed v t).text.toList = (v.text.toList ++ [' ', ':']) ++ ':' :: ([' '] ++ t.text.toList) := by
  simp [text]

theorem text_annotate (v : Value) (t : Ty) : (v.annotate t).text = (typed v t).text := by
  induction v with
  | abs x body ih =>
    -- behind the body or behind the function, the annotation comes last
    rw [← String.toList_inj]
    simp [annotate, ih]
  | literal | var | con | app | typed => rfl

theorem isOpen_annotate (v : Value) (t : Ty) : (v.annotate t).isOpen = true := by
  cases v <;> rfl

theorem isAtomic_annotate (v : Value) (t : Ty) : (v.annotate t).isAtomic = false := by
  cases v <;> rfl

theorem isOpen_settle (v : Value) : v.settle.isOpen = v.isOpen := by
  cases v with
  | typed v t => exact isOpen_annotate v.settle t
  | literal | var | con | app | abs => rfl

theorem isAtomic_settle (v : Value) : v.settle.isAtomic = v.isAtomic := by
  cases v with
  | typed v t => exact isAtomic_annotate v.settle t
  | literal | var | con | app | abs => rfl

/-- Settling an expression does not show in its written form. -/
theorem text_settle (v : Value) : v.settle.text = v.text := by
  induction v with
  | literal | var | con => rfl
  | app f a ihf iha => simp only [settle, text, ihf, iha, isOpen_settle, isAtomic_settle]
  | abs x body ih => simp only [settle, text, ih]
  | typed v t ih =>
    rw [settle, text_annotate]
    simp only [text, ih]

theorem settled_annotate {v : Value} (h : v.Settled) (t : Ty) : (v.annotate t).Settled := by
  induction v with
  | abs x body ih => exact ih h
  | literal | var | con | app | typed => exact ⟨rfl, h⟩

theorem settled_settle (v : Value) : v.settle.Settled := by
  induction v with
  | literal | var | con => trivial
  | app f a ihf iha => exact ⟨ihf, iha⟩
  | abs x body ih => exact ih
  | typed v t ih => exact settled_annotate ih t

theorem wellNamed_annotate {v : Value} {t : Ty} (hv : v.WellNamed) (ht : t.WellNamed) :
    (v.annotate t).WellNamed := by
  induction v with
  | abs x body ih => exact ⟨hv.1, ih hv.2⟩
  | literal | var | con | app | typed => exact ⟨hv, ht⟩

theorem wellNamed_settle {v : Value} (h : v.WellNamed) : v.settle.WellNamed := by
  induction v with
  | literal | var | con => exact h
  | app f a ihf iha => exact ⟨ihf h.1, iha h.2⟩
  | abs x body ih => exact ⟨h.1, ih h.2⟩
  | typed v t ih => exact wellNamed_annotate (ih h.1) h.2

/-- A settled expression has nothing to move. -/
theorem settle_eq_self {v : Value} (h : v.Settled) : v.settle = v := by
  induction v with
  | literal | var | con => rfl
  | app f a ihf iha => rw [settle, ihf h.1, iha h.2]
  | abs x body ih => rw [settle, ih h]
  | typed v t ih =>
    rw [settle, ih h.2]
    -- there is no function for the annotation to move into
    cases v with
    | abs => exact absurd h.1 (by simp [isAbs])
    | literal | var | con | app | typed => rfl

theorem isAbs_eq_false {v : Value} (h : v.isOpen = false) : v.isAbs = false := by
  cases v with
  | literal | var | con | app => rfl
  | abs | typed => cases h

section WellNamed

variable {v w f a body : Value} {x : String} {t : Ty}

theorem word_of_isAtomic (hv : v.WellNamed) (h : v.isAtomic = true) : Word v.text.toList := by
  cases v with
  | literal l => exact hv.elim
  | var q | con q => exact (Fixture.spells_text hv.1).word
  | app | abs | typed => cases h

/-- Parentheses match in a written expression, and no colon stands outside of them if
something may follow the expression. -/
theorem nested_text (hv : v.WellNamed) :
    Nested [] v.text.toList ∧ (v.isOpen = false → Nested [':'] v.text.toList) := by
  induction v with
  | literal | var | con =>
    have hword := word_of_isAtomic hv rfl
    exact ⟨hword.nested (by decide), fun _ => hword.nested (by decide)⟩
  | app f a ihf iha =>
    have hf : Nested [':'] f.left := Text.nested_enclosed (ihf hv.1).1 (ihf hv.1).2
    have ha : Nested [':'] a.argument := by
      refine Text.nested_enclosed (iha hv.2).1 fun h => ?_
      exact (word_of_isAtomic hv.2 (by simpa using h)).nested (by decide)
    have htext : Nested [':'] (app f a).text.toList := by
      rw [toList_text_app]
      exact hf.append (.char (by decide) (by decide) (by decide) ha)
    exact ⟨htext.balanced, fun _ => htext⟩
  | abs x body ih =>
    refine ⟨?_, nofun⟩
    have hx : Nested [] x.toList := (word_of_isIdentifier hv.1).nested (by decide)
    have hsign : Nested [] ['\\'] := Nested.of_isPlain (by decide)
    have harrow : Nested [] (' ' :: "-> ".toList) := Nested.of_isPlain (by decide)
    simpa using (hsign.append hx).append (harrow.append (ih hv.2).1)
  | typed v t ih =>
    refine ⟨?_, nofun⟩
    have hcolons : Nested [] ([' ', ':'] ++ ':' :: [' ']) := Nested.of_isPlain (by decide)
    have htype : Nested [] t.text.toList := (Ty.nested_text hv.2).1.balanced
    simpa using ((ih hv.1).1.append hcolons).append htype

theorem nested_left (hv : v.WellNamed) : Nested [':'] v.left :=
  Text.nested_enclosed (nested_text hv).1 (nested_text hv).2

theorem ends_colon : Ends [':'] ':' := Or.inr (by decide)

/-! ## Which expression it is -/

/-- What is more than a word has a space outside of parentheses. -/
theorem exists_space (hv : v.WellNamed) (h : v.isAtomic = false) :
    ∃ before after, Nested [] before ∧ v.text.toList = before ++ ' ' :: after := by
  cases v with
  | literal | var | con => cases h
  | app f a => exact ⟨_, _, (nested_left hv.1).balanced, toList_text_app f a⟩
  | abs x body =>
    have hx : Nested [] x.toList := (word_of_isIdentifier hv.1).nested (by decide)
    have hparameter : Nested [] ('\\' :: x.toList) := .char (by decide) (by decide) (by decide) hx
    exact ⟨_, _, hparameter, toList_text_abs x body⟩
  | typed v t =>
    have htext : (typed v t).text.toList =
        v.text.toList ++ ' ' :: (":: ".toList ++ t.text.toList) := by
      simp
    exact ⟨_, _, (nested_text hv.1).1, htext⟩

theorem phrase (hv : v.WellNamed) : Phrase v.isAtomic v.text :=
  ⟨(nested_text hv).1, word_of_isAtomic hv, exists_space hv⟩

theorem isAtomic_eq_of_text_eq (hv : v.WellNamed) (hw : w.WellNamed) (h : v.text = w.text) :
    v.isAtomic = w.isAtomic := by
  have htext := phrase hw
  rw [← h] at htext
  exact (phrase hv).isWord_eq htext

/-- In front of its colons, an annotated expression has matched parentheses. -/
theorem balanced_front (hv : v.WellNamed) : Nested [] (v.text.toList ++ [' ', ':']) :=
  (nested_text hv).1.append (Nested.of_isPlain (by decide))

theorem text_ne_typed (hv : v.WellNamed) (h : v.isOpen = false) (hw : w.WellNamed) (t : Ty) :
    v.text ≠ (typed w t).text := by
  intro heq
  have hlist := congrArg String.toList heq
  rw [toList_text_typed] at hlist
  exact ((nested_text hv).2 h).ne_append_cons (balanced_front hw) ends_colon hlist

/-- Only a function begins like one, if no annotation stands behind a function. -/
theorem head_ne_of_settled (hv : v.WellNamed) (hs : v.Settled) (h : v.isAbs = false) :
    v.text.toList.head? ≠ some '\\' := by
  -- in front of an application stands its function, and in front of colons what is annotated
  induction v with
  | literal | var | con => exact (word_of_isAtomic hv rfl).head_ne (by decide)
  | abs => cases h
  | app f a ih =>
    have hleft : f.left.head? ≠ some '\\' := by
      cases hopen : f.isOpen with
      | true => simp [left, hopen]
      | false => simpa [left, hopen] using ih hv.1 hs.1 (isAbs_eq_false hopen)
    rw [toList_text_app]
    exact Text.head_append_ne hleft (by simp)
  | typed v t ih =>
    rw [toList_text_typed, List.append_assoc]
    exact Text.head_append_ne (ih hv.1 hs.2 hs.1) (by simp)

/-! ## Taking an expression apart -/

theorem representable_of_isAtomic (hv : v.WellNamed) (h : v.isAtomic = true) :
    (Source.value v).Representable := by
  cases v with
  | literal => exact hv.elim
  | var | con => exact hv
  | app | abs | typed => cases h

/-- Settled expressions that are written alike are the same. -/
theorem eq_of_text_eq_of_settled (hv : v.WellNamed) (hw : w.WellNamed) (hvs : v.Settled)
    (hws : w.Settled) (h : v.text = w.text) : v = w := by
  induction v generalizing w with
  | literal | var | con =>
    have hatomic := isAtomic_eq_of_text_eq hv hw h
    have hvname := representable_of_isAtomic hv rfl
    have hwname := representable_of_isAtomic hw hatomic.symm
    exact Source.value.inj (Fixture.eq_of_textOf_eq hvname hwname rfl h)
  | app f a ihf iha =>
    have hatomic := isAtomic_eq_of_text_eq hv hw h
    cases w with
    | literal | var | con => cases hatomic
    | abs x body => exact absurd (by simp [h]) (head_ne_of_settled hv hvs rfl)
    | typed w t => exact absurd h (text_ne_typed hv rfl hw.1 t)
    | app g b =>
      have hlist := congrArg String.toList h
      rw [toList_text_app, toList_text_app] at hlist
      obtain ⟨hf, ha⟩ := (phrase hv.1).eq_of_application_eq (phrase hw.1) (phrase hv.2)
        (phrase hw.2) hlist
      rw [ihf hv.1 hw.1 hvs.1 hws.1 hf, iha hv.2 hw.2 hvs.2 hws.2 ha]
  | abs x body ih =>
    have hatomic := isAtomic_eq_of_text_eq hv hw h
    cases w with
    | literal | var | con => cases hatomic
    | app | typed => exact absurd (by simp [← h]) (head_ne_of_settled hw hws rfl)
    | abs y other =>
      -- the parameter ends at the first space
      have hlist := congrArg String.toList h
      have hx : Nested [' '] x.toList := (word_of_isIdentifier hv.1).nested (by decide)
      have hy : Nested [' '] y.toList := (word_of_isIdentifier hw.1).nested (by decide)
      simp only [toList_text_abs, List.cons.injEq, true_and] at hlist
      obtain ⟨hparameter, hbody⟩ := hx.append_cons_inj hy ends_space ends_space hlist
      have hbody : body.text.toList = other.text.toList := by simpa using hbody
      rw [String.toList_inj.mp hparameter, ih hv.2 hw.2 hvs hws (String.toList_inj.mp hbody)]
  | typed v t ih =>
    have hatomic := isAtomic_eq_of_text_eq hv hw h
    cases w with
    | literal | var | con => cases hatomic
    | app g b => exact absurd h.symm (text_ne_typed hw rfl hv.1 t)
    | abs y other => exact absurd (by simp [h]) (head_ne_of_settled hv hvs rfl)
    | typed w u =>
      -- both texts part at their last colon
      have hlist := congrArg String.toList h
      have htype {t : Ty} (ht : t.WellNamed) : Nested [':'] ([' '] ++ t.text.toList) :=
        (Nested.of_isPlain (by decide)).append (Ty.nested_text ht).1
      rw [toList_text_typed, toList_text_typed] at hlist
      obtain ⟨hvalue, hannotation⟩ := (balanced_front hv.1).append_cons_inj_right
        (balanced_front hw.1) (htype hv.2) (htype hw.2) ends_colon hlist
      rw [List.append_left_inj] at hvalue
      rw [List.append_right_inj] at hannotation
      rw [ih hv.1 hw.1 hvs.2 hws.2 (String.toList_inj.mp hvalue),
        Ty.eq_of_text_eq hv.2 hw.2 (String.toList_inj.mp hannotation)]

/-- **How far written expressions are ambiguous.** Well-named expressions are written alike
just if they are the same once all annotations are moved into the functions they stand
behind; so of those without annotations behind functions no two are written alike. -/
theorem text_eq_iff_settle_eq (hv : v.WellNamed) (hw : w.WellNamed) :
    (v.text = w.text ↔ v.settle = w.settle) ∧
      (v.Settled → w.Settled → (v.text = w.text ↔ v = w)) := by
  have hiff : v.text = w.text ↔ v.settle = w.settle := by
    constructor
    · intro h
      rw [← text_settle v, ← text_settle w] at h
      exact eq_of_text_eq_of_settled (wellNamed_settle hv) (wellNamed_settle hw)
        (settled_settle v) (settled_settle w) h
    · intro h
      rw [← text_settle v, h, text_settle w]
  refine ⟨hiff, fun hvs hws => ?_⟩
  rw [hiff, settle_eq_self hvs, settle_eq_self hws]

end WellNamed

/-- Two annotations inside of two functions. -/
def annotatedInside : Value :=
  .abs "x" (.abs "y" (.typed (.typed (.app (.var ⟨none, "x"⟩) (.var ⟨none, "y"⟩)) (.var "t"))
    (.function (.var "t") (.var "u"))))

/-- The same annotations, one behind each of the functions. -/
def annotatedBehind : Value :=
  .typed (.abs "x" (.typed (.abs "y" (.app (.var ⟨none, "x"⟩) (.var ⟨none, "y"⟩))) (.var "t")))
    (.function (.var "t") (.var "u"))

theorem annotatedBehind_text_eq :
    annotatedInside.WellNamed ∧ annotatedBehind.WellNamed ∧
      annotatedInside.settle = annotatedBehind.settle ∧
      annotatedInside.text = annotatedBehind.text := by
  have hinside : annotatedInside.WellNamed := by decide +kernel
  have hbehind : annotatedBehind.WellNamed := by decide +kernel
  have hsettle : annotatedInside.settle = annotatedBehind.settle := rfl
  exact ⟨hinside, hbehind, hsettle, (text_eq_iff_settle_eq hinside hbehind).1.mpr hsettle⟩

/-- A function with an annotated body. -/
def annotatedBody : Value := .abs "x" (.typed (.var ⟨none, "x"⟩) (.var "t"))

/-- An annotated function. -/
def annotatedFunction : Value := .typed (.abs "x" (.var ⟨none, "x"⟩)) (.var "t")

/-- The two are not the same, and both are written `\x -> x :: t`. -/
theorem annotatedFunction_ambiguous :
    annotatedBody.WellNamed ∧ annotatedFunction.WellNamed ∧
      annotatedBody.text = "\\x -> x :: t" ∧ annotatedFunction.text = "\\x -> x :: t" ∧
      annotatedBody ≠ annotatedFunction := by
  have hbody : annotatedBody.WellNamed := by decide +kernel
  have hfunction : annotatedFunction.WellNamed := by decide +kernel
  exact ⟨hbody, hfunction, by decide, by decide, by decide⟩

end Value

end TypingSession

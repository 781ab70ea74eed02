import TypingSession.Proofs.Fixture.Names
import TypingSession.Proofs.WrittenForm.Kind

/-!
# TypingSession — written types are unambiguous

Arrows and quantifiers extend to the right without end, and stand in parentheses wherever
something follows them. So, outside of parentheses, the first arrow of an arrow parts its two
sides, the last space of an application its function from the argument, and the first dot of
a quantifier its variable from the body. Which of the three a type is shows as well: only
quantifiers begin with their word, and of the others only arrows have an arrow outside of
parentheses.

All this rests on the names: a name has none of these characters, constructors and variables
begin differently, and no variable is spelled like an unknown or the word of quantifiers.

* `Ty.WellNamed` — types whose names are of that form.
* `Ty.eq_of_text_eq` — of those no two are written alike.
-/

namespace TypingSession

open Text (Nested Ends Word Phrase enclosed ends_space)

/-! ## Names as words -/

theorem Fixture.Spells.word {l : List Char} {q : Qualified} (h : Fixture.Spells l q) :
    Word l := by
  have hnone : Text.signs.all (fun d => !isNameChar d && d != '.') = true := by decide +kernel
  intro c hc hsign
  obtain ⟨hname, hdot⟩ : isNameChar c = false ∧ c ≠ '.' := by
    simpa using List.all_eq_true.mp hnone c hsign
  rcases h.of_mem hc with hc | hc
  · rw [hname] at hc
    cases hc
  · exact hdot hc

theorem word_of_isIdentifier {l : List Char} (h : isIdentifier l = true) : Word l :=
  (Fixture.Spells.plain h).word

theorem isCapitalized_append {l : List Char} (h : isCapitalized l = true) (more : List Char) :
    isCapitalized (l ++ more) = true := by
  cases l with
  | nil => cases h
  | cons c rest => exact h

/-- A constructor begins with a capital letter, its own or that of its module. -/
theorem Qualified.Representable.isCapitalized_text {q : Qualified} (h : q.Representable)
    (hname : isCapitalized q.name.toList = true) : isCapitalized q.text.toList = true := by
  obtain ⟨module, name⟩ := q
  obtain ⟨-, hmodule⟩ := h
  match module with
  | none => exact hname
  | some ⟨[]⟩ => exact absurd rfl (hmodule _ rfl).1
  | some ⟨[s]⟩ =>
    have hs := ((hmodule _ rfl).2 s (by simp)).2
    simpa [Qualified.text, ModuleName.text] using isCapitalized_append hs _
  | some ⟨s :: s' :: more⟩ =>
    have hs := ((hmodule _ rfl).2 s (by simp)).2
    simpa [Qualified.text, ModuleName.text] using isCapitalized_append hs _

namespace Ty

/-! ## Well-named types -/

/-- A name for type variables: an identifier that begins neither with a capital letter nor
with an underscore, as any does that begins with a small letter, and that is not the word of
quantifiers. -/
def IsVariable (name : String) : Prop :=
  isIdentifier name.toList = true ∧ isCapitalized name.toList = false ∧
    name.toList.head? ≠ some '_' ∧ name ≠ "forall"

instance : DecidablePred IsVariable := fun _ => inferInstanceAs (Decidable (_ ∧ _ ∧ _ ∧ _))

/-- Variables have names for variables, and constructors have capitalized ones. -/
def WellNamed : Ty → Prop
  | unknown _ => True
  | var name => IsVariable name
  | con q => q.Representable ∧ isCapitalized q.name.toList = true
  | app f a => f.WellNamed ∧ a.WellNamed
  | function a r => a.WellNamed ∧ r.WellNamed
  | forAll v body => IsVariable v ∧ body.WellNamed

instance decidableWellNamed : DecidablePred WellNamed
  | unknown _ => inferInstanceAs (Decidable True)
  | var name => inferInstanceAs (Decidable (IsVariable name))
  | con _ => inferInstanceAs (Decidable (_ ∧ _))
  | app f a | function f a =>
    @instDecidableAnd _ _ (decidableWellNamed f) (decidableWellNamed a)
  | forAll _ body => @instDecidableAnd _ _ _ (decidableWellNamed body)

/-! ## Written forms -/

/-- A type as it is written in front of its argument or of an arrow. -/
def left (t : Ty) : List Char := (enclosed t.isOpen t.text).toList

/-- A type as it is written behind the type that is applied to it. -/
def argument (t : Ty) : List Char := (enclosed (!t.isAtomic) t.text).toList

@[simp] theorem toList_text_unknown (u : Nat) :
    (unknown u).text.toList = ['_'] ++ u.repr.toList := by
  simp [text]

@[simp] theorem toList_text_app (f a : Ty) :
    (app f a).text.toList = f.left ++ ' ' :: a.argument := by
  simp [text, left, argument]

@[simp] theorem toList_text_function (a r : Ty) :
    (function a r).text.toList = (a.left ++ [' ', '-']) ++ '>' :: ([' '] ++ r.text.toList) := by
  simp [text, left]

/-- The first space of an arrow stands in front of it. -/
theorem toList_text_function_space (a r : Ty) :
    (function a r).text.toList = a.left ++ ' ' :: ('-' :: '>' :: ' ' :: r.text.toList) := by
  simp

@[simp] theorem toList_text_forAll (v : String) (body : Ty) :
    (forAll v body).text.toList =
      "forall".toList ++ ' ' :: (v.toList ++ '.' :: ([' '] ++ body.text.toList)) := by
  simp [text]

section WellNamed

variable {t u f a r body : Ty} {v : String}

theorem word_of_isAtomic (ht : t.WellNamed) (h : t.isAtomic = true) : Word t.text.toList := by
  cases t with
  | unknown u =>
    have hunderscore : Word ['_'] := List.forall_mem_singleton.mpr (by decide)
    rw [toList_text_unknown]
    exact hunderscore.append (Text.word_repr u)
  | var name => exact word_of_isIdentifier ht.1
  | con q => exact (Fixture.spells_text ht.1).word
  | app | function | forAll => cases h

/-- Parentheses match in a written type, no colon stands outside of them, and no arrow
either if something may follow the type. -/
theorem nested_text (ht : t.WellNamed) :
    Nested [':'] t.text.toList ∧ (t.isOpen = false → Nested ['>', ':'] t.text.toList) := by
  induction t with
  | unknown | var | con =>
    have hword := word_of_isAtomic ht rfl
    exact ⟨hword.nested (by decide), fun _ => hword.nested (by decide)⟩
  | app f a ihf iha =>
    have hf : Nested ['>', ':'] f.left := Text.nested_enclosed (ihf ht.1).1.balanced (ihf ht.1).2
    have ha : Nested ['>', ':'] a.argument := by
      refine Text.nested_enclosed (iha ht.2).1.balanced fun h => ?_
      exact (word_of_isAtomic ht.2 (by simpa using h)).nested (by decide)
    have htext : Nested ['>', ':'] (app f a).text.toList := by
      rw [toList_text_app]
      exact hf.append (.char (by decide) (by decide) (by decide) ha)
    exact ⟨htext.mono (by simp), fun _ => htext⟩
  | function a r iha ihr =>
    refine ⟨?_, nofun⟩
    have ha : Nested [':'] a.left :=
      Text.nested_enclosed (iha ht.1).1.balanced fun _ => (iha ht.1).1
    have harrow : Nested [':'] ([' ', '-'] ++ '>' :: [' ']) := Nested.of_isPlain (by decide)
    simpa using (ha.append harrow).append (ihr ht.2).1
  | forAll v body ih =>
    refine ⟨?_, nofun⟩
    have hword : Nested [':'] ("forall".toList ++ [' ']) := Nested.of_isPlain (by decide)
    have hv : Nested [':'] v.toList := (word_of_isIdentifier ht.1.1).nested (by decide)
    have hdot : Nested [':'] ['.', ' '] := Nested.of_isPlain (by decide)
    simpa using (hword.append hv).append (hdot.append (ih ht.2).1)

theorem nested_left (ht : t.WellNamed) : Nested ['>', ':'] t.left :=
  Text.nested_enclosed (nested_text ht).1.balanced (nested_text ht).2

/-- In front of its arrow, an argument has no arrow outside of parentheses. -/
theorem nested_front (ht : t.WellNamed) : Nested ['>', ':'] (t.left ++ [' ', '-']) :=
  (nested_left ht).append (Nested.of_isPlain (by decide))

theorem nested_variable (hv : IsVariable v) : Nested ['.'] v.toList := by
  have hdot : '.' ∉ v.toList := Fixture.notMem_of_isIdentifier hv.1 (by decide)
  exact (word_of_isIdentifier hv.1).nested_of_notMem (List.forall_mem_singleton.mpr hdot)

theorem ends_arrow : Ends ['>', ':'] '>' := Or.inr (by decide)

/-! ## Which type it is -/

/-- What is more than a word has a space outside of parentheses. -/
theorem exists_space (ht : t.WellNamed) (h : t.isAtomic = false) :
    ∃ before after, Nested [] before ∧ t.text.toList = before ++ ' ' :: after := by
  cases t with
  | unknown | var | con => cases h
  | app f a => exact ⟨_, _, (nested_left ht.1).balanced, toList_text_app f a⟩
  | function a r =>
    exact ⟨_, _, (nested_left ht.1).balanced, toList_text_function_space a r⟩
  | forAll v body => exact ⟨_, _, Nested.of_isPlain (by decide), toList_text_forAll v body⟩

theorem phrase (ht : t.WellNamed) : Phrase t.isAtomic t.text :=
  ⟨(nested_text ht).1.balanced, word_of_isAtomic ht, exists_space ht⟩

theorem isAtomic_eq_of_text_eq (ht : t.WellNamed) (hu : u.WellNamed) (h : t.text = u.text) :
    t.isAtomic = u.isAtomic := by
  have htext := phrase hu
  rw [← h] at htext
  exact (phrase ht).isWord_eq htext

theorem text_ne_function (ht : t.WellNamed) (h : t.isOpen = false) (ha : a.WellNamed) (r : Ty) :
    t.text ≠ (function a r).text := by
  intro heq
  have hlist := congrArg String.toList heq
  rw [toList_text_function] at hlist
  exact ((nested_text ht).2 h).ne_append_cons (nested_front ha).balanced ends_arrow hlist

theorem text_ne_word (ht : t.WellNamed) (h : t.isAtomic = true) :
    t.text.toList ≠ "forall".toList := by
  intro heq
  cases t with
  | unknown u => simp at heq
  | var name => exact ht.2.2.2 (String.toList_inj.mp heq)
  | con q =>
    have hupper : isCapitalized q.text.toList = true := ht.1.isCapitalized_text ht.2
    have hword : q.text.toList = "forall".toList := heq
    rw [hword] at hupper
    exact absurd hupper (by decide)
  | app | function | forAll => cases h

/-- No application and no arrow begins with the word of quantifiers. -/
theorem left_ne_word (ht : t.WellNamed) (x y : List Char) :
    t.left ++ ' ' :: x ≠ "forall".toList ++ ' ' :: y := by
  -- down the functions of applications, to the word or the parenthesis in front
  induction t generalizing x with
  | unknown | var | con =>
    intro heq
    have htext : Nested [' '] _ := (word_of_isAtomic ht rfl).nested (by decide)
    have hword : Nested [' '] "forall".toList := Nested.of_isPlain (by decide)
    exact text_ne_word ht rfl (htext.append_cons_inj hword ends_space ends_space heq).1
  | app f a ihf =>
    have hleft : (app f a).left = f.left ++ ' ' :: a.argument := toList_text_app f a
    rw [hleft, List.append_assoc]
    exact ihf ht.1 _
  | function | forAll =>
    intro heq
    simp [left, isOpen] at heq

theorem text_app_ne_forAll (hf : f.WellNamed) (a : Ty) (v : String) (body : Ty) :
    (app f a).text ≠ (forAll v body).text := by
  intro heq
  have hlist := congrArg String.toList heq
  rw [toList_text_app, toList_text_forAll] at hlist
  exact left_ne_word hf _ _ hlist

theorem text_function_ne_forAll (ha : a.WellNamed) (r : Ty) (v : String) (body : Ty) :
    (function a r).text ≠ (forAll v body).text := by
  intro heq
  have hlist := congrArg String.toList heq
  rw [toList_text_function_space, toList_text_forAll] at hlist
  exact left_ne_word ha _ _ hlist

/-! ## Taking a type apart -/

/-- A word is an unknown, or a name that does not begin like one. -/
theorem unknown_or_name (ht : t.WellNamed) (h : t.isAtomic = true) :
    (∃ n, t = unknown n) ∨
      ((Source.type t).Representable ∧ t.text.toList.head? ≠ some '_') := by
  cases t with
  | unknown n => exact Or.inl ⟨n, rfl⟩
  | var name => exact Or.inr ⟨⟨ht.1, ht.2.1⟩, ht.2.2.1⟩
  | con q =>
    have hupper : isCapitalized q.text.toList = true := ht.1.isCapitalized_text ht.2
    refine Or.inr ⟨ht, fun hhead => ?_⟩
    rw [isCapitalized, show q.text.toList.head? = some '_' from hhead] at hupper
    exact absurd hupper (by decide)
  | app | function | forAll => cases h

theorem eq_of_text_eq_of_isAtomic (ht : t.WellNamed) (hu : u.WellNamed)
    (htatomic : t.isAtomic = true) (huatomic : u.isAtomic = true) (h : t.text = u.text) :
    t = u := by
  rcases unknown_or_name ht htatomic with ⟨n, rfl⟩ | ⟨htname, hthead⟩
  · rcases unknown_or_name hu huatomic with ⟨m, rfl⟩ | ⟨-, huhead⟩
    · have hdigits : n.repr.toList = m.repr.toList := by simpa using congrArg String.toList h
      rw [Nat.repr_inj.mp (String.toList_inj.mp hdigits)]
    · exact absurd (by simp [← h]) huhead
  · rcases unknown_or_name hu huatomic with ⟨m, rfl⟩ | ⟨huname, -⟩
    · exact absurd (by simp [h]) hthead
    · exact Source.type.inj (Fixture.eq_of_textOf_eq htname huname rfl h)

theorem eq_of_text_eq (ht : t.WellNamed) (hu : u.WellNamed) (h : t.text = u.text) : t = u := by
  -- a type of another form is written differently; of the same form, the parts are found
  induction t generalizing u with
  | unknown | var | con =>
    have hatomic := isAtomic_eq_of_text_eq ht hu h
    exact eq_of_text_eq_of_isAtomic ht hu rfl hatomic.symm h
  | app f a ihf iha =>
    have hatomic := isAtomic_eq_of_text_eq ht hu h
    cases u with
    | unknown | var | con => cases hatomic
    | function b s => exact absurd h (text_ne_function ht rfl hu.1 s)
    | forAll v body => exact absurd h (text_app_ne_forAll ht.1 a v body)
    | app g b =>
      have hlist := congrArg String.toList h
      rw [toList_text_app, toList_text_app] at hlist
      obtain ⟨hf, ha⟩ := (phrase ht.1).eq_of_application_eq (phrase hu.1) (phrase ht.2)
        (phrase hu.2) hlist
      rw [ihf ht.1 hu.1 hf, iha ht.2 hu.2 ha]
  | function a r iha ihr =>
    have hatomic := isAtomic_eq_of_text_eq ht hu h
    cases u with
    | unknown | var | con => cases hatomic
    | app g b => exact absurd h.symm (text_ne_function hu rfl ht.1 r)
    | forAll v body => exact absurd h (text_function_ne_forAll ht.1 r v body)
    | function b s =>
      -- both texts part at their first arrow
      have hlist := congrArg String.toList h
      rw [toList_text_function, toList_text_function] at hlist
      obtain ⟨hleft, hresult⟩ := (nested_front ht.1).append_cons_inj (nested_front hu.1) ends_arrow
        ends_arrow hlist
      rw [List.append_left_inj] at hleft
      have ha : a.text = b.text := (phrase ht.1).eq_of_enclosed_eq (phrase hu.1) hleft
      have hr : r.text.toList = s.text.toList := by simpa using hresult
      rw [iha ht.1 hu.1 ha, ihr ht.2 hu.2 (String.toList_inj.mp hr)]
  | forAll v body ih =>
    have hatomic := isAtomic_eq_of_text_eq ht hu h
    cases u with
    | unknown | var | con => cases hatomic
    | app g b => exact absurd h.symm (text_app_ne_forAll hu.1 b v body)
    | function b s => exact absurd h.symm (text_function_ne_forAll hu.1 s v body)
    | forAll w other =>
      -- the variable ends at the first dot
      have hlist := congrArg String.toList h
      have hdot : Ends ['.'] '.' := Or.inr (by decide)
      simp only [toList_text_forAll, List.append_right_inj, List.cons.injEq, true_and] at hlist
      obtain ⟨hv, hbody⟩ := (nested_variable ht.1).append_cons_inj (nested_variable hu.1) hdot hdot
        hlist
      have hbody : body.text.toList = other.text.toList := by simpa using hbody
      rw [String.toList_inj.mp hv, ih ht.2 hu.2 (String.toList_inj.mp hbody)]

/-- **Written types are unambiguous.** Well-named types are written alike just if they are
the same. -/
theorem text_eq_iff_of_wellNamed (ht : t.WellNamed) (hu : u.WellNamed) :
    t.text = u.text ↔ t = u :=
  ⟨eq_of_text_eq ht hu, congrArg text⟩

end WellNamed

/-- A quantified arrow that takes functions. -/
def takesFunction : Ty :=
  .forAll "a" (.function (.function (.var "a") (.unknown 3)) (.app (.prim "Array") (.var "a")))

/-- The same words without the parentheses: an arrow that takes two arguments. -/
def takesTwo : Ty :=
  .forAll "a" (.function (.var "a") (.function (.unknown 3) (.app (.prim "Array") (.var "a"))))

theorem takesFunction_text_ne : takesFunction.WellNamed ∧ takesTwo.WellNamed ∧
    takesFunction.text ≠ takesTwo.text := by
  have hfunction : takesFunction.WellNamed := by decide +kernel
  have htwo : takesTwo.WellNamed := by decide +kernel
  refine ⟨hfunction, htwo, fun h => ?_⟩
  exact absurd ((text_eq_iff_of_wellNamed hfunction htwo).mp h) (by decide)

end Ty

end TypingSession

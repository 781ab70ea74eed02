import Mathlib.Data.List.Basic
import TypingSession.Text.Enclosed

/-!
# TypingSession — texts with parentheses

A text is *nested* when its parentheses match and certain characters, the separators, stand
only inside of them. Such a text has a definite end wherever a separator or a closing
parenthesis stands behind it, whatever follows; and two nested texts with a separator
between them are found again, both from the left and from the right.

* `Nested.append_cons_inj` — the part in front of the first separator.
* `Nested.append_cons_inj_right` — the part behind the last one.
* `enclosed_inj` — parentheses that stand only where they are needed are taken off again.
-/

namespace TypingSession.Text

/-! ## Nested texts -/

/-- The parentheses of a text match, and outside of them it has no separator. -/
inductive Nested : List Char → List Char → Prop where
  | nil {seps : List Char} : Nested seps []
  | char {seps : List Char} {c : Char} {rest : List Char} (hopen : c ≠ '(') (hclose : c ≠ ')')
    (hsep : c ∉ seps) (h : Nested seps rest) : Nested seps (c :: rest)
  | group {seps inner rest : List Char} (hinner : Nested [] inner) (h : Nested seps rest) :
    Nested seps ('(' :: (inner ++ ')' :: rest))

/-- Whether a text has neither parentheses nor separators. -/
def isPlain (seps l : List Char) : Bool :=
  l.all fun c => c != '(' && c != ')' && !seps.contains c

/-- A character at which every nested text in front of it ends. -/
def Ends (seps : List Char) (c : Char) : Prop := c = ')' ∨ (c ∈ seps ∧ c ≠ '(')

theorem Ends.ne_open {seps : List Char} {c : Char} (h : Ends seps c) : c ≠ '(' := by
  rcases h with rfl | ⟨-, hopen⟩
  · decide
  · exact hopen

/-- A character that ends nested texts is none of theirs. -/
theorem Ends.not_inside {seps : List Char} {c : Char} (h : Ends seps c) (hclose : c ≠ ')')
    (hsep : c ∉ seps) : False := by
  rcases h with heq | ⟨hmem, -⟩
  · exact hclose heq
  · exact hsep hmem

namespace Nested

variable {seps u v x y : List Char} {c d : Char}

theorem mono {seps' : List Char} (h : Nested seps u) (hsub : seps' ⊆ seps) :
    Nested seps' u := by
  induction h with
  | nil => exact .nil
  | char hopen hclose hsep _ ih => exact .char hopen hclose (fun hmem => hsep (hsub hmem)) (ih hsub)
  | group hinner _ _ ih => exact .group hinner (ih hsub)

theorem balanced (h : Nested seps u) : Nested [] u :=
  h.mono (List.nil_subset seps)

theorem append (hu : Nested seps u) (hv : Nested seps v) : Nested seps (u ++ v) := by
  induction hu with
  | nil => exact hv
  | char hopen hclose hsep _ ih => exact .char hopen hclose hsep (ih hv)
  | group hinner _ _ ih =>
    rw [List.cons_append, List.append_assoc, List.cons_append]
    exact .group hinner (ih hv)

theorem of_forall (h : ∀ c ∈ u, c ≠ '(' ∧ c ≠ ')' ∧ c ∉ seps) : Nested seps u := by
  induction u with
  | nil => exact .nil
  | cons c rest ih =>
    obtain ⟨⟨hopen, hclose, hsep⟩, hrest⟩ := List.forall_mem_cons.mp h
    exact .char hopen hclose hsep (ih hrest)

theorem of_isPlain (h : isPlain seps u = true) : Nested seps u := by
  refine of_forall fun c hc => ?_
  have hplain := List.all_eq_true.mp h c hc
  simpa [and_assoc] using hplain

theorem parenthesized (h : Nested [] u) : Nested seps ('(' :: (u ++ [')'])) := .group h .nil

theorem exists_of_cons_open (h : Nested seps ('(' :: u)) :
    ∃ inner rest, u = inner ++ ')' :: rest ∧ Nested [] inner ∧ Nested seps rest := by
  cases h with
  | char hopen => exact absurd rfl hopen
  | group hinner hrest => exact ⟨_, _, rfl, hinner, hrest⟩

theorem tail (h : Nested seps (c :: u)) (hopen : c ≠ '(') : Nested seps u := by
  cases h with
  | char _ _ _ hrest => exact hrest
  | group => exact absurd rfl hopen

/-! ## Finding the ends -/

/-- A nested text ends in front of the first character that ends nested texts. -/
theorem append_cons_inj (hu : Nested seps u) (hv : Nested seps v) (hc : Ends seps c)
    (hd : Ends seps d) (h : u ++ c :: x = v ++ d :: y) : u = v ∧ c :: x = d :: y := by
  -- along the first text: what it begins with, the second one must begin with as well
  induction hu generalizing v c d x y with
  | nil =>
    cases hv with
    | nil => exact ⟨rfl, h⟩
    | char _ hclose hsep =>
      cases h
      exact (hc.not_inside hclose hsep).elim
    | group =>
      cases h
      exact absurd rfl hc.ne_open
  | char hopen hclose hsep _ ih =>
    cases hv with
    | nil =>
      cases h
      exact (hd.not_inside hclose hsep).elim
    | char _ _ _ hrest =>
      obtain ⟨rfl, htail⟩ := List.cons_eq_cons.mp h
      obtain ⟨rfl, hend⟩ := ih hrest hc hd htail
      exact ⟨rfl, hend⟩
    | group => exact absurd (List.cons_eq_cons.mp h).1 hopen
  | group hinner _ ihinner ih =>
    cases hv with
    | nil =>
      cases h
      exact absurd rfl hd.ne_open
    | char hopen => exact absurd (List.cons_eq_cons.mp h).1.symm hopen
    | group hinner' hrest =>
      -- the two first groups are closed by the same parenthesis
      have hclose : Ends [] ')' := Or.inl rfl
      simp only [List.cons_append, List.append_assoc, List.cons.injEq, true_and] at h
      obtain ⟨rfl, htail⟩ := ihinner hinner' hclose hclose h
      obtain ⟨rfl, hend⟩ := ih hrest hc hd (List.cons_eq_cons.mp htail).2
      exact ⟨rfl, hend⟩

/-- A nested text has no separator behind a part of it in which the parentheses match. -/
theorem ne_append_cons (hu : Nested seps u) (hv : Nested [] v) (hc : Ends seps c) :
    u ≠ v ++ c :: x := by
  intro h
  induction hu generalizing v with
  | nil => exact absurd h (by simp)
  | char hopen hclose hsep _ ih =>
    cases hv with
    | nil =>
      cases h
      exact hc.not_inside hclose hsep
    | char _ _ _ hrest => exact ih hrest hc (List.cons_eq_cons.mp h).2
    | group => exact hopen (List.cons_eq_cons.mp h).1
  | group hinner _ _ ih =>
    cases hv with
    | nil =>
      cases h
      exact hc.ne_open rfl
    | char hopen => exact hopen (List.cons_eq_cons.mp h).1.symm
    | group hinner' hrest =>
      -- the separator is not in the first group, for the part in front of it has closed that
      have hclose : Ends [] ')' := Or.inl rfl
      simp only [List.cons_append, List.append_assoc, List.cons.injEq, true_and] at h
      obtain ⟨rfl, htail⟩ := hinner.append_cons_inj hinner' hclose hclose h
      exact ih hrest hc (List.cons_eq_cons.mp htail).2

/-- What stands behind matched parentheses in a nested text is nested. -/
theorem of_append {seps' : List Char} (hu : Nested seps' u) (h : Nested seps (u ++ v)) :
    Nested seps v := by
  induction hu with
  | nil => exact h
  | char hopen _ _ _ ih => exact ih (h.tail hopen)
  | group hinner _ _ ih =>
    rw [List.cons_append, List.append_assoc] at h
    obtain ⟨inner', rest', heq, hinner', hrest⟩ := h.exists_of_cons_open
    have hclose : Ends [] ')' := Or.inl rfl
    obtain ⟨-, htail⟩ := hinner.append_cons_inj hinner' hclose hclose heq
    rw [← (List.cons_eq_cons.mp htail).2] at hrest
    exact ih hrest

/-- Between matched parentheses and a separator nothing more can stand, if no separator
stands outside of parentheses behind it. -/
theorem eq_nil_of_append (hu : Nested [] u) (huv : Nested [] (u ++ v)) (hx : Nested seps x)
    (hc : Ends seps c) (h : c :: x = v ++ c :: y) : v = [] := by
  cases v with
  | nil => rfl
  | cons d rest =>
    obtain ⟨rfl, htail⟩ := List.cons_eq_cons.mp h
    have hrest : Nested [] rest := (of_append hu huv).tail hc.ne_open
    exact absurd htail (hx.ne_append_cons hrest hc)

/-- A nested text begins behind the last character that ends nested texts. -/
theorem append_cons_inj_right (hu : Nested [] u) (hv : Nested [] v) (hx : Nested seps x)
    (hy : Nested seps y) (hc : Ends seps c) (h : u ++ c :: x = v ++ c :: y) : u = v ∧ x = y := by
  -- one of the two parts in front begins with the other
  rcases List.append_eq_append_iff.mp h with ⟨more, rfl, htail⟩ | ⟨more, rfl, htail⟩
  · obtain rfl := eq_nil_of_append hu hv hx hc htail
    exact ⟨(List.append_nil u).symm, (List.cons_eq_cons.mp htail).2⟩
  · obtain rfl := eq_nil_of_append hv hu hy hc htail
    exact ⟨List.append_nil v, (List.cons_eq_cons.mp htail).2.symm⟩

end Nested

/-! ## Parentheses where they are needed -/

/-- A text is not in parentheses as a whole. -/
def Bare (l : List Char) : Prop := ∀ inner, Nested [] inner → l ≠ '(' :: (inner ++ [')'])

theorem bare_of_head {l : List Char} (h : l.head? ≠ some '(') : Bare l := by
  rintro inner - rfl
  exact h rfl

theorem bare_of_separator {u x : List Char} {c : Char} (hu : Nested [] u) (hopen : c ≠ '(') :
    Bare (u ++ c :: x) := by
  intro inner hinner h
  have hgroup : Nested [c] ('(' :: (inner ++ [')'])) := hinner.parenthesized
  exact hgroup.ne_append_cons hu (Or.inr ⟨List.mem_singleton_self c, hopen⟩) h.symm

theorem toList_enclosed_true (s : String) :
    (enclosed true s).toList = '(' :: (s.toList ++ [')']) := by
  simp

theorem nested_enclosed {seps : List Char} {needed : Bool} {s : String} (h : Nested [] s.toList)
    (hbare : needed = false → Nested seps s.toList) : Nested seps (enclosed needed s).toList := by
  cases needed with
  | true =>
    rw [toList_enclosed_true]
    exact h.parenthesized
  | false => exact hbare rfl

/-- What is put in parentheses if needed is known again, if it has none of its own. -/
theorem enclosed_inj {needed needed' : Bool} {s s' : String} (hs : Nested [] s.toList)
    (hs' : Nested [] s'.toList) (hbare : Bare s.toList) (hbare' : Bare s'.toList)
    (h : (enclosed needed s).toList = (enclosed needed' s').toList) : s = s' := by
  cases needed with
  | true =>
    rw [toList_enclosed_true] at h
    cases needed' with
    | true =>
      rw [toList_enclosed_true, List.cons.injEq, List.append_left_inj] at h
      exact String.toList_inj.mp h.2
    | false => exact absurd h.symm (hbare' _ hs)
  | false =>
    cases needed' with
    | true =>
      rw [toList_enclosed_true] at h
      exact absurd h (hbare _ hs')
    | false => exact String.toList_inj.mp h

end TypingSession.Text

import Mathlib.Data.List.Forall2
import TypingSession.Failure.Report

/-!
# TypingSession — equality of frames

Frames are compared by what they hold, and numbers by their value: the two zeros are equal,
and what is no number equals nothing, not even itself. So equality of frames is not identity.
It is identity once the signs of zeros are left out (`unsigned`), among the frames in which
every number is one (`hasNaN`). From this it follows that equality is symmetric and
transitive, and just which frames equal themselves.

* `Double.equal_iff`, `Value.equal_iff`, `Frame.equal_iff` — equality as identity.
* `Frame.equal_self_iff`, `Frame.equal_symm`, `Frame.equal_trans` — what this makes of it.
* `Frame.verboseReport_eq_of_equal` — equal frames are reported alike in full.
-/

namespace TypingSession

/-! ## Numbers -/

namespace Double

/-- A number without the sign, if it is a zero. -/
def unsigned (d : Double) : Double := if d.isZero then ⟨0⟩ else d

theorem isNaN_of_isZero {d : Double} (h : d.isZero = true) : d.isNaN = false := by
  simp_all [isZero, isNaN]

theorem isZero_unsigned (d : Double) : d.unsigned.isZero = d.isZero := by
  unfold unsigned
  cases h : d.isZero with
  | true => rw [if_pos rfl]; decide
  | false => simp [h]

theorem isNaN_unsigned (d : Double) : d.unsigned.isNaN = d.isNaN := by
  unfold unsigned
  cases h : d.isZero with
  | true => rw [isNaN_of_isZero h, if_pos rfl]; decide
  | false => rfl

theorem equal_iff {a b : Double} : a.equal b = true ↔ a.isNaN = false ∧ a.unsigned = b.unsigned := by
  constructor
  · intro h
    simp only [equal, Bool.and_eq_true, Bool.not_eq_true', Bool.or_eq_true, beq_iff_eq] at h
    obtain ⟨⟨ha, -⟩, hbits | ⟨hazero, hbzero⟩⟩ := h
    · obtain rfl : a = b := congrArg mk hbits
      exact ⟨ha, rfl⟩
    · simp [ha, unsigned, hazero, hbzero]
  · rintro ⟨ha, h⟩
    have hb : b.isNaN = false := by rw [← isNaN_unsigned, ← h, isNaN_unsigned, ha]
    have hzero : a.isZero = b.isZero := by rw [← isZero_unsigned, h, isZero_unsigned]
    cases hbzero : b.isZero with
    | true => simp [equal, ha, hb, hzero, hbzero]
    | false =>
      -- neither is a zero, so nothing has been left out
      simp only [unsigned, hzero, hbzero] at h
      simp_all [equal]

end Double

/-! ## Expressions -/

/-- A literal without the sign of a zero. -/
def Literal.unsigned : Literal → Literal
  | number d => number d.unsigned
  | string s => string s
  | boolean b => boolean b

/-- Whether a literal stands for no number though it should. -/
def Literal.hasNaN : Literal → Bool
  | number d => d.isNaN
  | string _ | boolean _ => false

theorem Literal.equal_iff {a b : Literal} :
    a.equal b = true ↔ a.hasNaN = false ∧ a.unsigned = b.unsigned := by
  cases a <;> cases b <;> simp [equal, hasNaN, unsigned, Double.equal_iff]

namespace Value

/-- An expression without the signs of zeros. -/
def unsigned : Value → Value
  | literal l => literal l.unsigned
  | var name => var name
  | con name => con name
  | app f a => app f.unsigned a.unsigned
  | abs x body => abs x body.unsigned
  | typed v t => typed v.unsigned t

/-- Whether something in an expression stands for no number though it should. -/
def hasNaN : Value → Bool
  | literal l => l.hasNaN
  | var _ | con _ => false
  | app f a => f.hasNaN || a.hasNaN
  | abs _ body => body.hasNaN
  | typed v _ => v.hasNaN

theorem equal_iff {v w : Value} : v.equal w = true ↔ v.hasNaN = false ∧ v.unsigned = w.unsigned := by
  induction v generalizing w with
  | literal l => cases w <;> simp [equal, hasNaN, unsigned, Literal.equal_iff]
  | var name | con name => cases w <;> simp [equal, hasNaN, unsigned]
  | app f a ihf iha =>
    cases w <;> simp [equal, hasNaN, unsigned, ihf, iha, and_and_and_comm]
  | abs x body ih => cases w <;> simp [equal, hasNaN, unsigned, ih, and_left_comm]
  | typed v t ih => cases w <;> simp [equal, hasNaN, unsigned, ih, and_assoc]

theorem hasNaN_unsigned (v : Value) : v.unsigned.hasNaN = v.hasNaN := by
  induction v with
  | literal l =>
    cases l with
    | number d => exact d.isNaN_unsigned
    | string s | boolean b => rfl
  | var name | con name => rfl
  | app f a ihf iha => rw [unsigned, hasNaN, ihf, iha, hasNaN]
  | abs x body ih => exact ih
  | typed v t ih => exact ih

end Value

/-! ## Frames -/

/-- A source without the signs of zeros. -/
def Source.unsigned : Source → Source
  | value v => value v.unsigned
  | type t => type t

/-- Whether something in a source stands for no number though it should. -/
def Source.hasNaN : Source → Bool
  | value v => v.hasNaN
  | type _ => false

theorem Source.equal_iff {s t : Source} :
    s.equal t = true ↔ s.hasNaN = false ∧ s.unsigned = t.unsigned := by
  cases s <;> cases t <;> simp [equal, hasNaN, unsigned, Value.equal_iff]

namespace Frame

variable {f g k : Frame}

/-- A frame without the signs of zeros. -/
def unsigned (f : Frame) : Frame := ⟨f.message, f.source.map Source.unsigned⟩

/-- Whether something in a frame stands for no number though it should. -/
def hasNaN (f : Frame) : Bool := f.source.any Source.hasNaN

theorem hasNaN_unsigned (f : Frame) : f.unsigned.hasNaN = f.hasNaN := by
  obtain ⟨message, source⟩ := f
  cases source with
  | none => rfl
  | some s =>
    cases s with
    | value v => exact v.hasNaN_unsigned
    | type t => rfl

/-- Equal frames are the same but for the signs of zeros, and hold only numbers that are
numbers. -/
theorem equal_iff : f.equal g = true ↔ f.hasNaN = false ∧ f.unsigned = g.unsigned := by
  obtain ⟨message, source⟩ := f
  obtain ⟨message', source'⟩ := g
  cases source <;> cases source' <;>
    simp [equal, hasNaN, unsigned, Source.equal_iff, and_left_comm]

theorem equal_self_iff : f.equal f = true ↔ f.hasNaN = false := by
  rw [equal_iff, and_iff_left rfl]

theorem equal_symm (h : f.equal g = true) : g.equal f = true := by
  obtain ⟨hf, heq⟩ := equal_iff.mp h
  rw [equal_iff, ← hasNaN_unsigned, ← heq, hasNaN_unsigned]
  exact ⟨hf, rfl⟩

theorem equal_trans (h : f.equal g = true) (h' : g.equal k = true) : f.equal k = true := by
  obtain ⟨hf, heq⟩ := equal_iff.mp h
  obtain ⟨-, heq'⟩ := equal_iff.mp h'
  exact equal_iff.mpr ⟨hf, heq.trans heq'⟩

/-- A report in full does not tell equal frames apart. -/
theorem verboseReport_eq_of_equal {fs gs : List Frame}
    (h : List.Forall₂ (fun f g => f.equal g = true) fs gs) :
    verboseReport fs = verboseReport gs := by
  have hmessages : fs.map message = gs.map message := by
    induction h with
    | nil => rfl
    | cons hfg _ ih =>
      have hmessage := congrArg message (equal_iff.mp hfg).2
      rw [List.map_cons, List.map_cons, ih]
      exact congrArg (· :: _) hmessage
  rw [verboseReport, verboseReport, hmessages]

/-- One in brief may, by the sign of a zero. -/
example :
    let zero (bits : UInt64) : Frame := ⟨"m", some (.value (.literal (.number ⟨bits⟩)))⟩
    let negative := zero 0x8000000000000000
    (zero 0).equal negative = true ∧ conciseReport [zero 0] ≠ conciseReport [negative] := by
  decide +kernel

end Frame

end TypingSession

import Mathlib.Data.List.Sort
import TypingSession.Failure.Report

/-!
# TypingSession — the positions of a brief report

A brief report picks frames out of a list, and `Frame.salient` does so by looking at the
frames that carry a source. Which frames these are can be told from positions alone: the
first position with a source, the last position with a source, and the last position of
all (`IsSalient`). The three may fall together, and then the frame is reported once; but
equal frames at different positions stay apart.

* `source_cases` — a list taken apart at its first and its last source.
* `reportedAt_salientPositions` — the frames of a brief report stand at the salient positions.
* `report_by_position` — and so the report is their text, in the order of the list.
-/

namespace TypingSession.Frame

/-! ## Salient positions -/

section Positions

variable (frames : List Frame) (i : Nat)

/-- The frame at a position carries a source. -/
def SourceAt : Prop := frames[i]?.any carriesSource = true

/-- The position is the first whose frame carries a source. -/
def FirstSource : Prop := SourceAt frames i ∧ ∀ j < i, ¬ SourceAt frames j

/-- The position is the last whose frame carries a source. -/
def LastSource : Prop :=
  SourceAt frames i ∧ ∀ j < frames.length, i < j → ¬ SourceAt frames j

/-- The position is one of the three whose frames are reported. -/
def IsSalient : Prop :=
  FirstSource frames i ∨ LastSource frames i ∨ i + 1 = frames.length

instance : Decidable (SourceAt frames i) := inferInstanceAs (Decidable (_ = true))

instance : Decidable (FirstSource frames i) := inferInstanceAs (Decidable (_ ∧ _))

instance : Decidable (LastSource frames i) := inferInstanceAs (Decidable (_ ∧ _))

instance : Decidable (IsSalient frames i) := inferInstanceAs (Decidable (_ ∨ _))

/-- The salient positions, in ascending order. -/
def salientPositions : List Nat := (List.range frames.length).filter (IsSalient frames ·)

end Positions

variable {frames : List Frame}

theorem SourceAt.lt_length {i : Nat} (h : SourceAt frames i) : i < frames.length := by
  unfold SourceAt at h
  by_contra hge
  rw [List.getElem?_eq_none (by omega)] at h
  exact absurd h (by simp)

theorem IsSalient.lt_length {i : Nat} (h : IsSalient frames i) : i < frames.length := by
  rcases h with h | h | h
  · exact h.1.lt_length
  · exact h.1.lt_length
  · omega

/-- An ascending list of all salient positions is the list of them. -/
theorem salientPositions_eq {ps : List Nat} (hascending : ps.Pairwise (· < ·))
    (hmem : ∀ i, i ∈ ps ↔ IsSalient frames i) : salientPositions frames = ps := by
  have hrange : (salientPositions frames).Pairwise (· < ·) := List.pairwise_lt_range.filter _
  apply hrange.eq_of_mem_iff hascending
  intro i
  rw [hmem, salientPositions, List.mem_filter, List.mem_range, decide_eq_true_eq]
  exact ⟨fun h => h.2, fun h => ⟨h.lt_length, h⟩⟩

/-! ## Positions in a list that is taken apart -/

theorem not_sourceAt (h : ∀ f ∈ frames, f.carriesSource = false) (i : Nat) :
    ¬ SourceAt frames i := by
  unfold SourceAt
  cases hi : frames[i]? with
  | none => simp
  | some f => simp [h f (List.mem_of_getElem? hi)]

section Split

variable {before after : List Frame} {f : Frame} {i : Nat}

theorem sourceAt_middle (hf : f.carriesSource = true) :
    SourceAt (before ++ f :: after) before.length := by
  unfold SourceAt
  simp [hf]

theorem not_sourceAt_of_lt (hbefore : ∀ g ∈ before, g.carriesSource = false)
    (hi : i < before.length) : ¬ SourceAt (before ++ f :: after) i := by
  have hnone := not_sourceAt hbefore i
  unfold SourceAt at hnone ⊢
  rwa [List.getElem?_append_left hi]

theorem not_sourceAt_of_gt (hafter : ∀ g ∈ after, g.carriesSource = false)
    (hi : before.length < i) : ¬ SourceAt (before ++ f :: after) i := by
  obtain ⟨k, rfl⟩ : ∃ k, i = before.length + (k + 1) := ⟨i - before.length - 1, by omega⟩
  have hnone := not_sourceAt hafter k
  unfold SourceAt at hnone ⊢
  rwa [List.getElem?_append_right (by omega), Nat.add_sub_cancel_left, List.getElem?_cons_succ]

/-- With no source in front of it, a frame with a source stands at the first such position. -/
theorem firstSource_iff (hf : f.carriesSource = true)
    (hbefore : ∀ g ∈ before, g.carriesSource = false) :
    FirstSource (before ++ f :: after) i ↔ i = before.length := by
  have hat : SourceAt (before ++ f :: after) before.length := sourceAt_middle hf
  constructor
  · rintro ⟨hi, hfirst⟩
    rcases Nat.lt_trichotomy i before.length with hlt | heq | hgt
    · exact absurd hi (not_sourceAt_of_lt hbefore hlt)
    · exact heq
    · exact absurd hat (hfirst _ hgt)
  · rintro rfl
    exact ⟨hat, fun j hj => not_sourceAt_of_lt hbefore hj⟩

/-- With no source behind it, a frame with a source stands at the last such position. -/
theorem lastSource_iff (hf : f.carriesSource = true)
    (hafter : ∀ g ∈ after, g.carriesSource = false) :
    LastSource (before ++ f :: after) i ↔ i = before.length := by
  have hat : SourceAt (before ++ f :: after) before.length := sourceAt_middle hf
  constructor
  · rintro ⟨hi, hlast⟩
    rcases Nat.lt_trichotomy i before.length with hlt | heq | hgt
    · exact absurd hat (hlast _ hat.lt_length hlt)
    · exact heq
    · exact absurd hi (not_sourceAt_of_gt hafter hgt)
  · rintro rfl
    exact ⟨hat, fun j _ hj => not_sourceAt_of_gt hafter hj⟩

end Split

/-! ## The frames at the salient positions -/

theorem filter_carriesSource_eq_nil :
    frames.filter carriesSource = [] ↔ ∀ f ∈ frames, f.carriesSource = false := by
  simp only [List.filter_eq_nil_iff, Bool.not_eq_true]

/-- No frame carries a source, or a single one does, or there is a first and a latest that do. -/
theorem source_cases (frames : List Frame) :
    (∀ f ∈ frames, f.carriesSource = false) ∨
    (∃ before f after, frames = before ++ f :: after ∧ f.carriesSource = true ∧
      (∀ g ∈ before, g.carriesSource = false) ∧ ∀ g ∈ after, g.carriesSource = false) ∨
    ∃ before first between latest after,
      frames = before ++ first :: (between ++ latest :: after) ∧
      first.carriesSource = true ∧ latest.carriesSource = true ∧
      (∀ g ∈ before, g.carriesSource = false) ∧ ∀ g ∈ after, g.carriesSource = false := by
  cases hfilter : frames.filter carriesSource with
  | nil => exact Or.inl (filter_carriesSource_eq_nil.mp hfilter)
  | cons first more =>
    obtain ⟨before, rest, rfl, hbefore, hfirst, hmore⟩ := List.filter_eq_cons_iff.mp hfilter
    simp only [Bool.not_eq_true] at hbefore
    refine Or.inr ?_
    rcases List.eq_nil_or_concat' more with rfl | ⟨inner, latest, rfl⟩
    · have hafter := filter_carriesSource_eq_nil.mp hmore
      exact Or.inl ⟨before, first, rest, rfl, hfirst, hbefore, hafter⟩
    · -- the latest is the only one in what stands behind the others
      obtain ⟨between, tail, rfl, -, htail⟩ := List.filter_eq_append_iff.mp hmore
      obtain ⟨gap, after, rfl, -, hlatest, hnone⟩ := List.filter_eq_cons_iff.mp htail
      have hafter := filter_carriesSource_eq_nil.mp hnone
      have hsplit : between ++ (gap ++ latest :: after) = (between ++ gap) ++ latest :: after :=
        (List.append_assoc _ _ _).symm
      exact Or.inr ⟨before, first, between ++ gap, latest, after, by rw [hsplit], hfirst, hlatest,
        hbefore, hafter⟩

/-- The frames of a brief report stand at the given positions. -/
structure ReportedAt (frames : List Frame) (positions : List Nat) : Prop where
  ascending : positions.Pairwise (· < ·)
  mem_iff : ∀ i, i ∈ positions ↔ IsSalient frames i
  length_le : positions.length ≤ 3
  salient_eq : salient frames = positions.filterMap (frames[·]?)

/-- Without a source only the last frame is reported, if there is one. -/
theorem reportedAt_of_none (hnone : ∀ f ∈ frames, f.carriesSource = false) :
    ∃ positions, ReportedAt frames positions := by
  have hfirst (i : Nat) : ¬ FirstSource frames i := fun h => not_sourceAt hnone i h.1
  have hlast (i : Nat) : ¬ LastSource frames i := fun h => not_sourceAt hnone i h.1
  have hfilter := filter_carriesSource_eq_nil.mpr hnone
  rcases List.eq_nil_or_concat' frames with rfl | ⟨outer, last, rfl⟩
  · refine ⟨[], List.Pairwise.nil, fun i => ?_, by simp, rfl⟩
    simp [IsSalient, hfirst, hlast]
  · refine ⟨[outer.length], by simp, fun i => ?_, by simp, ?_⟩
    · simp [IsSalient, hfirst, hlast]
    · simp [salient, hfilter]

section Split

variable {before between after : List Frame} {first latest f : Frame}
  (hbefore : ∀ g ∈ before, g.carriesSource = false)
  (hafter : ∀ g ∈ after, g.carriesSource = false)

include hbefore hafter

/-- With a single source, its frame and the last frame are reported, if they are two. -/
theorem reportedAt_of_single (hf : f.carriesSource = true) :
    ∃ positions, ReportedAt (before ++ f :: after) positions := by
  have hfilter : (before ++ f :: after).filter carriesSource = [f] := by
    rw [List.filter_append, List.filter_cons_of_pos hf, filter_carriesSource_eq_nil.mpr hbefore,
      filter_carriesSource_eq_nil.mpr hafter, List.nil_append]
  have hmem (i : Nat) : IsSalient (before ++ f :: after) i ↔
      i = before.length ∨ i + 1 = (before ++ f :: after).length := by
    simp only [IsSalient, firstSource_iff hf hbefore, lastSource_iff hf hafter]
    omega
  rcases List.eq_nil_or_concat' after with rfl | ⟨rest, last, rfl⟩
  · -- it is the last frame itself
    refine ⟨[before.length], by simp, fun i => ?_, by simp, ?_⟩
    · rw [hmem]
      simp
    · simp [salient, hfilter, hf]
  · have hlast : last.carriesSource = false := hafter last (by simp)
    refine ⟨[before.length, before.length + (rest.length + 1)], by simp, fun i => ?_, by simp, ?_⟩
    · rw [hmem]
      simp [← Nat.add_assoc]
    · simp [salient, hfilter, hlast, List.getLast?_cons]

/-- With several sources, the frames of the first and the last of them and the last frame
are reported, if these are three. -/
theorem reportedAt_of_several (hfirst : first.carriesSource = true)
    (hlatest : latest.carriesSource = true) :
    ∃ positions, ReportedAt (before ++ first :: (between ++ latest :: after)) positions := by
  have hfilter : (before ++ first :: (between ++ latest :: after)).filter carriesSource =
      first :: (between.filter carriesSource ++ [latest]) := by
    rw [List.filter_append, List.filter_cons_of_pos hfirst, List.filter_append,
      List.filter_cons_of_pos hlatest, filter_carriesSource_eq_nil.mpr hbefore,
      filter_carriesSource_eq_nil.mpr hafter, List.nil_append]
  -- for its last source the list is taken apart at another place
  have hassoc : before ++ first :: (between ++ latest :: after) =
      (before ++ first :: between) ++ latest :: after := by simp
  have hlength : (before ++ first :: between).length = before.length + (between.length + 1) := by
    simp
  have hmem (i : Nat) : IsSalient (before ++ first :: (between ++ latest :: after)) i ↔
      i = before.length ∨ i = before.length + (between.length + 1) ∨
        i + 1 = (before ++ first :: (between ++ latest :: after)).length := by
    unfold IsSalient
    rw [firstSource_iff hfirst hbefore, hassoc, lastSource_iff hlatest hafter, hlength]
  rcases List.eq_nil_or_concat' after with rfl | ⟨rest, last, rfl⟩
  · -- the latest is the last frame itself
    refine ⟨[before.length, before.length + (between.length + 1)], by simp, fun i => ?_, by simp, ?_⟩
    · rw [hmem]
      simp [← Nat.add_assoc]
    · simp [salient, hfilter, hlatest, List.getLast?_cons]
  · have hlast : last.carriesSource = false := hafter last (by simp)
    refine ⟨[before.length, before.length + (between.length + 1),
      before.length + (between.length + (rest.length + 1) + 1)], by simp, fun i => ?_, by simp, ?_⟩
    · rw [hmem]
      simp [← Nat.add_assoc]
    · simp [salient, hfilter, hlast, List.getLast?_cons]

end Split

/-- The frames of a brief report stand at the salient positions. -/
theorem reportedAt_salientPositions (frames : List Frame) :
    ReportedAt frames (salientPositions frames) := by
  have hsome : ∃ positions, ReportedAt frames positions := by
    rcases source_cases frames with hnone | ⟨before, f, after, rfl, hf, hbefore, hafter⟩ |
      ⟨before, first, between, latest, after, rfl, hfirst, hlatest, hbefore, hafter⟩
    · exact reportedAt_of_none hnone
    · exact reportedAt_of_single hbefore hafter hf
    · exact reportedAt_of_several hbefore hafter hfirst hlatest
  obtain ⟨positions, h⟩ := hsome
  rwa [salientPositions_eq h.ascending h.mem_iff]

/-! ## The text of a report -/

/-- The most specific frame is reported behind all others. -/
theorem exists_salient_concat (outer : List Frame) (last : Frame) :
    ∃ others, salient (outer ++ [last]) = others ++ [last] := by
  unfold salient
  rw [List.getLast?_concat]
  -- one case for each way in which frames are picked
  cases (outer ++ [last]).filter carriesSource with
  | nil => exact ⟨[], rfl⟩
  | cons first more =>
    dsimp only
    cases more.getLast? <;> cases last.carriesSource
    · exact ⟨[first], rfl⟩
    · exact ⟨[], rfl⟩
    · exact ⟨[first, _], rfl⟩
    · exact ⟨[first], rfl⟩

theorem exists_conciseReport_concat (outer : List Frame) (last : Frame) :
    ∃ front, conciseReport (outer ++ [last]) = front ++ last.text := by
  obtain ⟨others, hothers⟩ := exists_salient_concat outer last
  rw [conciseReport, hothers, List.map_append, List.map_singleton]
  by_cases hnil : others.map text = []
  · exact ⟨"", by rw [hnil, List.nil_append, String.intercalate_singleton, String.empty_append]⟩
  · exact ⟨_, by rw [String.intercalate_append_of_ne_nil hnil (by simp),
      String.intercalate_singleton]⟩

/-- **A brief report is picked by position.** It is the text of the frames at the first
position with a source, the last position with a source, and the last position of all, one
below the other in the order of the list, and nothing if there are no frames. Positions that
fall together count once, and only those, so that there are three at most. The text ends
with that of the most specific frame. -/
theorem report_by_position (frames : List Frame) :
    let positions := salientPositions frames
    report false frames = "\n".intercalate ((positions.filterMap (frames[·]?)).map text) ∧
      report false [] = "" ∧
      positions.Pairwise (· < ·) ∧
      (∀ i, i ∈ positions ↔
        FirstSource frames i ∨ LastSource frames i ∨ i + 1 = frames.length) ∧
      positions.length ≤ 3 ∧
      ∀ outer last, frames = outer ++ [last] →
        ∃ front, report false frames = front ++ last.text := by
  intro positions
  have hat := reportedAt_salientPositions frames
  refine ⟨?_, rfl, hat.ascending, hat.mem_iff, hat.length_le, ?_⟩
  · show conciseReport frames = _
    rw [conciseReport, hat.salient_eq]
  · rintro outer last rfl
    exact exists_conciseReport_concat outer last

/-- Six frames, of which there are only two different ones. -/
theorem repeatedFrames_reported :
    let plain : Frame := ⟨"m", none⟩
    let sourced : Frame := ⟨"m", some (.type (.var "a"))⟩
    let frames := [plain, sourced, plain, sourced, sourced, plain]
    salientPositions frames = [1, 4, 5] ∧
      report false frames = "Error in type a: \nm\nError in type a: \nm\nm" ∧
      ∃ front, report false frames = front ++ "m" := by
  intro plain sourced frames
  have hpositions : salientPositions frames = [1, 4, 5] := by decide
  obtain ⟨hreport, -, -, -, -, hends⟩ := report_by_position frames
  rw [hpositions] at hreport
  refine ⟨hpositions, hreport, ?_⟩
  exact hends [plain, sourced, plain, sourced, sourced] plain rfl

end TypingSession.Frame

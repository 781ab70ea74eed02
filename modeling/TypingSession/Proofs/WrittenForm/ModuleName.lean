import Mathlib.Logic.Relation
import TypingSession.Name

/-!
# TypingSession — dotted module names

Every text can be read as a module name, and every module name is written with dots. The two
do not undo each other everywhere. Reading leaves out the empty segments of a text: those in
front of a first dot, behind a last one, and between two dots. Writing puts a dot between
segments and leaves the segments as they are, whatever stands in them.

Taking an empty segment out of a text, one at a time and with a dot next to it (`Sheds`), is
a way to say what reading and writing do to a text without reading it.

* `kept_of_sheds` — the segments that are not empty survive.
* `reaches_intercalate` — and in the end nothing else is left.
* `dotted_form` — what is written for the module that a text names, and which modules are
  read back.
-/

namespace TypingSession.ModuleName

open Text (fields)

/-- An empty segment is taken out of a text together with a dot: it stood in front of the
first dot, behind the last, or between two. -/
inductive Sheds : List Char → List Char → Prop where
  | first (text : List Char) : Sheds ('.' :: text) text
  | last (text : List Char) : Sheds (text ++ ['.']) text
  | inner (front back : List Char) : Sheds (front ++ '.' :: '.' :: back) (front ++ '.' :: back)

/-- The segments of a text that are not empty. -/
def kept (text : List Char) : List (List Char) := (fields '.' text).filter (!·.isEmpty)

/-! ## Segments -/

theorem mem_kept {text segment : List Char} (h : segment ∈ kept text) :
    segment ≠ [] ∧ '.' ∉ segment := by
  obtain ⟨hmem, hne⟩ := List.mem_filter.mp h
  exact ⟨by simpa using hne, Text.notMem_of_mem_fields hmem⟩

theorem kept_of_forall {text : List Char} (h : [] ∉ fields '.' text) :
    kept text = fields '.' text := by
  refine List.filter_eq_self.mpr fun segment hsegment => ?_
  rw [Bool.not_eq_true', List.isEmpty_eq_false_iff]
  rintro rfl
  exact h hsegment

/-- Joined segments that are not empty and hold no dots are found again. -/
theorem kept_intercalate {segments : List (List Char)}
    (h : ∀ segment ∈ segments, segment ≠ [] ∧ '.' ∉ segment) :
    kept (['.'].intercalate segments) = segments := by
  cases segments with
  | nil => rfl
  | cons segment rest =>
    have hfields := Text.fields_intercalate (List.cons_ne_nil segment rest) fun s hs => (h s hs).2
    have hempty : [] ∉ fields '.' (['.'].intercalate (segment :: rest)) := by
      rw [hfields]
      intro hmem
      exact (h [] hmem).1 rfl
    rw [kept_of_forall hempty, hfields]

/-- Segments that have no dots are read as they were written. -/
theorem kept_kept (text : List Char) : kept (['.'].intercalate (kept text)) = kept text :=
  kept_intercalate fun _ => mem_kept

theorem notMem_fields_kept (text : List Char) :
    ['.'].intercalate (kept text) = [] ∨ [] ∉ fields '.' (['.'].intercalate (kept text)) := by
  by_cases hnil : kept text = []
  · left
    rw [hnil]
    rfl
  · right
    rw [Text.fields_intercalate hnil fun _ hs => (mem_kept hs).2]
    intro hmem
    exact (mem_kept hmem).1 rfl

theorem intercalate_kept {text : List Char} (h : text = [] ∨ [] ∉ fields '.' text) :
    ['.'].intercalate (kept text) = text := by
  rcases h with rfl | h
  · rfl
  · rw [kept_of_forall h, Text.intercalate_fields]

/-! ## Taking segments out -/

/-- What is taken out is empty, so no other segment gets lost. -/
theorem kept_of_sheds {text text' : List Char} (h : Sheds text text') : kept text' = kept text := by
  cases h with
  | first => rfl
  | last =>
    have hfields : fields '.' (text' ++ ['.']) = fields '.' text' ++ [[]] :=
      Text.fields_append_sep '.' text' []
    simp [kept, hfields]
  | inner front back =>
    have hfields : fields '.' ('.' :: back) = [] :: fields '.' back := rfl
    simp [kept, Text.fields_append_sep, hfields]

theorem kept_of_reaches {text text' : List Char} (h : Relation.ReflTransGen Sheds text text') :
    kept text' = kept text := by
  induction h with
  | refl => rfl
  | tail _ hstep ih => rw [kept_of_sheds hstep, ih]

/-- Behind a segment and its dot, an empty first segment stands between two dots. -/
theorem Sheds.behind {text text' : List Char} (h : Sheds text text') (segment : List Char) :
    Sheds (segment ++ ['.'] ++ text) (segment ++ ['.'] ++ text') := by
  cases h with
  | first => simpa using Sheds.inner segment text'
  | last => simpa using Sheds.last (segment ++ '.' :: text')
  | inner front back => simpa using Sheds.inner (segment ++ '.' :: front) back

/-- Taking the empty ones out of some segments, one by one from the last to the first. -/
theorem reaches_intercalate (segments : List (List Char)) :
    Relation.ReflTransGen Sheds (['.'].intercalate segments)
      (['.'].intercalate (segments.filter (!·.isEmpty))) := by
  induction segments with
  | nil => exact .refl
  | cons segment rest ih =>
    by_cases hrest : rest = []
    · -- a single segment has no dot to go with it
      subst hrest
      cases segment with
      | nil => exact .refl
      | cons c more => exact .refl
    rw [List.intercalate_cons_of_ne_nil hrest]
    by_cases hempty : segment = []
    · subst hempty
      exact .head (.first _) ih
    -- what is taken out of the rest is taken out behind the segment, too
    have hbehind := ih.lift (segment ++ ['.'] ++ ·) fun _ _ h => h.behind segment
    rw [List.filter_cons_of_pos (by simpa using hempty)]
    by_cases hmore : rest.filter (!·.isEmpty) = []
    · -- nothing is left behind the dot, which goes too
      rw [hmore] at hbehind ⊢
      have hlast : Sheds (segment ++ ['.'] ++ []) segment := by simpa using Sheds.last segment
      simpa using hbehind.tail hlast
    · rw [List.intercalate_cons_of_ne_nil hmore]
      exact hbehind

/-! ## Module names -/

theorem ofDotted_eq (s : String) : ofDotted s = ⟨(kept s.toList).map String.ofList⟩ := rfl

/-- Nothing is left out of a dotted form without empty segments. -/
theorem ofDotted_of_fields {s : String} (h : [] ∉ fields '.' s.toList) :
    ofDotted s = ⟨(fields '.' s.toList).map String.ofList⟩ := by
  rw [ofDotted_eq, kept_of_forall h]

theorem toList_text (m : ModuleName) :
    m.text.toList = ['.'].intercalate (m.segments.map String.toList) := by
  simp [text]

theorem toList_text_ofDotted (s : String) :
    (ofDotted s).text.toList = ['.'].intercalate (kept s.toList) := by
  simp [toList_text, ofDotted_eq, Function.comp_def]

/-- What is written for the module that a text names is the text that is left without its
empty segments. -/
theorem eq_text_ofDotted_iff {s t : String} :
    t = (ofDotted s).text ↔
      Relation.ReflTransGen Sheds s.toList t.toList ∧ (t = "" ∨ [] ∉ fields '.' t.toList) := by
  have hempty : t = "" ↔ t.toList = [] := by
    rw [← String.toList_inj]
    rfl
  rw [← String.toList_inj, toList_text_ofDotted, hempty]
  constructor
  · -- the segments that are kept can be reached, and none of them is empty
    intro h
    rw [h]
    have hreaches := reaches_intercalate (fields '.' s.toList)
    rw [Text.intercalate_fields] at hreaches
    exact ⟨hreaches, notMem_fields_kept s.toList⟩
  · -- on any way the same segments are kept, and where no other is left they are the text
    rintro ⟨hreaches, hnone⟩
    rw [← kept_of_reaches hreaches, intercalate_kept hnone]

theorem ofDotted_text_eq_iff {m : ModuleName} :
    ofDotted m.text = m ↔ ∀ segment ∈ m.segments, segment ≠ "" ∧ '.' ∉ segment.toList := by
  obtain ⟨segments⟩ := m
  constructor
  · intro h segment hsegment
    -- the segments are what was read from some text
    have hsegments := congrArg ModuleName.segments h
    rw [ofDotted_eq] at hsegments
    rw [← hsegments] at hsegment
    obtain ⟨l, hl, rfl⟩ := List.mem_map.mp hsegment
    simpa using mem_kept hl
  · intro h
    have hkept : kept (['.'].intercalate (segments.map String.toList)) =
        segments.map String.toList := by
      refine kept_intercalate fun l hl => ?_
      obtain ⟨segment, hsegment, rfl⟩ := List.mem_map.mp hl
      simpa using h segment hsegment
    rw [ofDotted_eq, toList_text, hkept]
    simp [Function.comp_def]

/-- **Module names and their dotted form.** For the module that a text names, that text is
written without its empty segments: take them out one by one, each with a dot next to it,
until there is none, and whatever the order this is what is left. So the text itself is
written just if it is empty or has no empty segment, and the module is read back from what is
written. In general a module is read back from its written form just if no segment of it is
empty or holds a dot. -/
theorem dotted_form :
    (∀ s t : String, t = (ofDotted s).text ↔
      Relation.ReflTransGen Sheds s.toList t.toList ∧ (t = "" ∨ [] ∉ fields '.' t.toList)) ∧
    (∀ s : String, (ofDotted s).text = s ↔ s = "" ∨ [] ∉ fields '.' s.toList) ∧
    (∀ s : String, ofDotted (ofDotted s).text = ofDotted s) ∧
    ∀ m : ModuleName, ofDotted m.text = m ↔
      ∀ segment ∈ m.segments, segment ≠ "" ∧ '.' ∉ segment.toList := by
  refine ⟨fun _ _ => eq_text_ofDotted_iff, fun s => ?_, fun s => ?_, fun _ => ofDotted_text_eq_iff⟩
  · rw [eq_comm, eq_text_ofDotted_iff]
    exact and_iff_right .refl
  · rw [ofDotted_eq (ofDotted s).text, toList_text_ofDotted, kept_kept, ofDotted_eq]

/-- Empty segments at both ends and inside, and a module with a dot in one of its segments. -/
example : (ofDotted "..Data...Map.").text = "Data.Map" ∧
    ofDotted (text ⟨["Data.Map"]⟩) = ⟨["Data", "Map"]⟩ := by
  decide

end TypingSession.ModuleName

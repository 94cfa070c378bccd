import Mathlib.Tactic.ByContra
import Mathlib.Tactic.SplitIfs
import TextTemplate.Partial.Directory

/-!
# Dotted names of partials

The place of a partial in a directory is the directories on the way to it and the stem of its file.
Its path and its dotted name both come from there. Every name is that of a place, whose components
are what stands between the points of the name (`Location.exists_of_name`); a path that has a name
is one whose file has the extension (`TemplateDirectory.partialOf?_path`). In both directions the
place can be told, from the name if it has no points but those between the segments
(`Location.name_injective`).
-/

namespace TextTemplate

/-- Where a partial is below a directory. -/
structure Location where
  directories : List String
  stem : String

namespace Location

/-- The components without the extension of the file. -/
def segments (l : Location) : List String := l.directories ++ [l.stem]

def path (l : Location) : List String := l.directories ++ [l.stem ++ ".bnt"]

def name (l : Location) : String := ".".intercalate l.segments

/-- No directory and not the stem has a point in its name. -/
def IsDotless (l : Location) : Prop := ∀ s ∈ l.segments, '.' ∉ s.toList

theorem segments_ne_nil (l : Location) : l.segments ≠ [] := by simp [segments]

/-- Any segments, at least one, are those of a place. -/
theorem exists_of_segments {segments : List String} (nonempty : segments ≠ []) :
    ∃ l : Location, l.segments = segments :=
  ⟨⟨segments.dropLast, segments.getLast nonempty⟩, List.dropLast_concat_getLast nonempty⟩

theorem path_ne_nil (l : Location) : l.path ≠ [] := by simp [path]

/-- A place is determined by its components. -/
theorem eq_of_segments {l m : Location} (same : l.segments = m.segments) : l = m := by
  obtain ⟨directories, stem⟩ := List.append_inj' same rfl
  cases l; cases m
  cases directories; cases stem
  rfl

/-- A place is determined by its path, since all paths have the same extension. -/
theorem path_injective {l m : Location} (same : l.path = m.path) : l = m := by
  obtain ⟨directories, file⟩ := List.append_inj' same rfl
  have stem : l.stem = m.stem := by
    have chars := congrArg String.toList (List.singleton_inj.1 file)
    rw [String.toList_append, String.toList_append] at chars
    exact String.toList_inj.1 (List.append_cancel_right chars)
  exact eq_of_segments (by rw [segments, segments, directories, stem])

/-! ## Splitting at points -/

/-- The segments of a name are the components if these have no points. -/
theorem splitOn_name {l : Location} (dotless : l.IsDotless) :
    l.name.toList.splitOn '.' = l.segments.map String.toList := by
  have point : ".".toList = ['.'] := rfl
  rw [name, String.toList_intercalate, point, List.splitOn_intercalate]
  · intro cs mem
    obtain ⟨s, held, rfl⟩ := List.mem_map.1 mem
    exact dotless s held
  · exact fun empty => l.segments_ne_nil (List.map_eq_nil_iff.1 empty)

/-- Every name is that of a place with the segments of the name. -/
theorem exists_of_name (name : String) :
    ∃ l : Location, l.name = name ∧ name.toList.splitOn '.' = l.segments.map String.toList := by
  have nonempty : (name.toList.splitOn '.').map String.ofList ≠ [] :=
    fun empty => List.splitOn_ne_nil '.' name.toList (List.map_eq_nil_iff.1 empty)
  obtain ⟨l, segments⟩ := exists_of_segments nonempty
  have back : l.segments.map String.toList = name.toList.splitOn '.' := by
    rw [segments, List.map_map]
    exact List.map_id'' (fun _ => String.toList_ofList) _
  refine ⟨l, ?_, back.symm⟩
  have point : ".".toList = ['.'] := rfl
  apply String.toList_inj.1
  rw [Location.name, String.toList_intercalate, point, back, List.intercalate_splitOn]

/-- A name has only one place without points in its components. -/
theorem name_injective {l m : Location} (hl : l.IsDotless) (hm : m.IsDotless)
    (same : l.name = m.name) : l = m := by
  have split : l.segments.map String.toList = m.segments.map String.toList := by
    rw [← splitOn_name hl, same, splitOn_name hm]
  exact eq_of_segments ((List.map_inj_right fun _ _ => String.toList_inj.1).1 split)

/-! ## Plain segments -/

/-- All segments are plain, and there is something in each. -/
def IsPlain (l : Location) : Prop :=
  ∀ s ∈ l.segments, s ≠ "" ∧ s.toList.all TemplateDirectory.isPlain = true

instance : DecidablePred IsPlain := fun l => inferInstanceAs (Decidable (∀ s ∈ l.segments, _))

/-- A point is no character of a plain segment. -/
theorem IsPlain.isDotless {l : Location} (plain : l.IsPlain) : l.IsDotless := by
  intro s mem point
  exact absurd (List.all_eq_true.1 (plain s mem).2 '.' point) (by decide)

theorem IsPlain.stem_ne {l : Location} (plain : l.IsPlain) : l.stem ≠ "" :=
  (plain l.stem (List.mem_append_right _ (List.mem_singleton_self _))).1

end Location

namespace TemplateDirectory

/-! ## Names of files -/

/-- A file with nothing in front of its extension has no stem. -/
theorem stem?_append (stem : String) :
    stem? (stem ++ ".bnt") =
      if stem = "" then none else some (if stem = "." then ".." else stem) := by
  have chars : (stem ++ ".bnt").toList = stem.toList ++ suffix := String.toList_append
  have front : (stem ++ ".bnt").toList.take ((stem ++ ".bnt").toList.length - suffix.length) =
      stem.toList := by
    rw [chars, List.length_append, Nat.add_sub_cancel, List.take_left]
  have behind : suffix.isSuffixOf (stem ++ ".bnt").toList = true := by
    rw [chars, List.isSuffixOf_iff_suffix]
    exact List.suffix_append ..
  rw [stem?, front, behind]
  have point : stem.toList = ['.'] ↔ stem = "." := by
    have chars : ".".toList = ['.'] := rfl
    rw [← chars, String.toList_inj]
  -- A single point is the one stem that is not kept as it is.
  by_cases empty : stem = ""
  · simp [empty]
  · simp [empty, point]

/-- Only a file with the extension has a stem. -/
theorem exists_of_stem? {file stem : String} (h : stem? file = some stem) :
    ∃ front, front ≠ "" ∧ file = front ++ ".bnt" := by
  have has : suffix.isSuffixOf file.toList = true ∧
      file.toList.take (file.toList.length - suffix.length) ≠ [] := by
    by_contra hasNot
    rw [stem?, if_neg hasNot] at h
    cases h
  obtain ⟨front, split⟩ := List.isSuffixOf_iff_suffix.1 has.1
  have same : file = String.ofList front ++ ".bnt" := by
    apply String.toList_inj.1
    rw [← split, String.toList_append, String.toList_ofList]
    rfl
  refine ⟨String.ofList front, ?_, same⟩
  -- With nothing in front the test for the stem fails.
  intro empty
  rw [same, empty] at has
  exact absurd has (by decide)

/-- The name of a file whose stem is a single point ends with two points. -/
theorem partialOf?_path {l : Location} (named : l.stem ≠ "") :
    partialOf? l.path =
      some (".".intercalate (l.directories ++ [if l.stem = "." then ".." else l.stem])) := by
  have last : l.path.getLast? = some (l.stem ++ ".bnt") := List.getLast?_concat ..
  have front : l.path.dropLast = l.directories := List.dropLast_concat ..
  have stem := stem?_append l.stem
  rw [if_neg named] at stem
  rw [partialOf?, last, front, Option.bind_some, stem]
  rfl

/-- Without points in its components a file has the dotted name of its place. -/
theorem partialOf?_path_of_dotless {l : Location} (named : l.stem ≠ "") (dotless : l.IsDotless) :
    partialOf? l.path = some l.name := by
  have noPoint : l.stem ≠ "." := by
    intro point
    refine dotless l.stem (List.mem_append_right _ (List.mem_singleton_self _)) ?_
    rw [point]
    decide
  rw [partialOf?_path named, if_neg noPoint]
  rfl

/-- Whether a path is that of a file with the extension, and something in front of it. -/
def IsPartial (path : List String) : Prop := ∃ l : Location, l.stem ≠ "" ∧ l.path = path

/-- The paths with a name are those of files with the extension. -/
theorem isSome_partialOf? {path : List String} :
    (partialOf? path).isSome = true ↔ IsPartial path := by
  constructor
  · intro h
    obtain ⟨name, h⟩ := Option.isSome_iff_exists.1 h
    obtain ⟨stem, found, -⟩ := Option.bind_eq_some_iff.1 h
    obtain ⟨file, last, stem?⟩ := Option.bind_eq_some_iff.1 found
    obtain ⟨front, named, rfl⟩ := exists_of_stem? stem?
    obtain ⟨directories, rfl⟩ := List.getLast?_eq_some_iff.1 last
    exact ⟨⟨directories, front⟩, named, rfl⟩
  · rintro ⟨l, named, rfl⟩
    rw [partialOf?_path named]
    rfl

instance : DecidablePred IsPartial := fun _ => decidable_of_iff _ isSome_partialOf?

theorem partialOf?_eq_none {path : List String} : partialOf? path = none ↔ ¬IsPartial path := by
  rw [← isSome_partialOf?, Option.not_isSome_iff_eq_none]

theorem isPartial_of_named {path : List String} {name : String}
    (named : partialOf? path = some name) : IsPartial path :=
  isSome_partialOf?.1 (Option.isSome_of_eq_some named)

end TemplateDirectory

end TextTemplate

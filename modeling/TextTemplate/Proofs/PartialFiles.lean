import TextTemplate.Proofs.DirectoryTrees
import TextTemplate.Proofs.DiskPaths
import TextTemplate.Proofs.DottedNames

/-!
# Files of partials

The file of a partial is found by going down from the root of the directory, segment by segment, and
by giving the last one an extension. Its path is the root with the components of the place behind it
(`TemplateDirectory.fileOf?_eq_some`). What stands behind the root is the same for every root, and
it is where the text is read (`TemplateDirectory.pathOf?`, `TemplateDirectory.load_of_some`).

A name has a file exactly if it is made of segments (`TemplateDirectory.isSome_fileOf?`), names that
have one file are the same (`TemplateDirectory.eq_of_fileOf?`), and whatever the root leads to, the
file is inside (`DiskPath.goesDown_descend`). So no name leads out of the directory
(`TemplateDirectory.fileOf?_confined`).
-/

namespace TextTemplate

namespace DiskPath

variable {root : DiskPath} {components : List String}

/-! ## Down from a root -/

/-- Whatever place `root` leads to, `file` goes on from there along the components alone, and what
is found at its end is inside. -/
def GoesDown (root file : DiskPath) (components : List String) : Prop :=
  ∀ (around : List Entry) (system place : Entry),
    Entry.follow around root.pieces system = .ok place →
      Entry.follow around file.pieces system = place.find components ∧
        ∀ found, place.find components = .ok found → found.Inside place

/-- What is added to a root goes on where the root leads to. -/
theorem exists_of_follow_root {around : List Entry} {system place : Entry}
    (h : Entry.follow around root.pieces system = .ok place) :
    ∃ outer, ∀ components, Entry.follow around (root.base ++ components) system =
      Entry.follow outer components place := by
  rcases root.pieces_cases with same | slash
  · rw [same, ← List.append_nil root.base] at h
    obtain ⟨outer, front, here, goesOn⟩ := Entry.exists_of_follow_append h
    rw [Entry.follow] at here
    rw [← Except.ok.inj here]
    exact ⟨outer, goesOn⟩
  · rw [slash] at h
    obtain ⟨outer, front, here, goesOn⟩ := Entry.exists_of_follow_append h
    -- The empty piece stays where it is, which is a directory.
    cases front with
    | file content => cases here
    | directory entries =>
      rw [Entry.follow_eq_step] at here
      rw [← Except.ok.inj here]
      exact ⟨outer, goesOn⟩

/-- Components that go down lead down from every root. -/
theorem goesDown_descend (nonempty : components ≠ [])
    (steps : ∀ name ∈ components, Entry.IsStep name)
    (pieces : ∀ piece ∈ components, IsPiece piece) :
    GoesDown root (root.descend components) components := by
  intro around system place reached
  obtain ⟨outer, goesOn⟩ := exists_of_follow_root reached
  constructor
  · rw [pieces_descend nonempty pieces, goesOn, Entry.follow_eq_find steps]
  · intro found inside
    exact Entry.inside_of_find nonempty steps inside

end DiskPath

namespace Location

variable {l : Location}

theorem IsPlain.isPiece (plain : l.IsPlain) : ∀ s ∈ l.segments, DiskPath.IsPiece s := by
  intro s mem
  obtain ⟨nonempty, all⟩ := plain s mem
  refine ⟨nonempty, fun slash => ?_⟩
  exact absurd (List.all_eq_true.1 all '/' slash) (by decide)

/-- A plain location has pieces that stand by themselves between slashes, the name of the file too.
-/
theorem IsPlain.isPiece_path (plain : l.IsPlain) : ∀ piece ∈ l.path, DiskPath.IsPiece piece := by
  intro piece mem
  rcases List.mem_append.1 mem with directory | file
  · exact plain.isPiece piece (List.mem_append_left _ directory)
  · have stem := plain.isPiece l.stem (List.mem_append_right _ (List.mem_singleton_self _))
    rw [List.mem_singleton.1 file]
    exact stem.append (by decide)

end Location

namespace TemplateDirectory

variable {d : TemplateDirectory} {name : String} {file : DiskPath}

/-! ## The file of a name -/

/-- The loop over segments comes to an end exactly if all of them are plain and none is empty. -/
theorem descend?_eq (path : DiskPath) (segments : List String) :
    descend? path (segments.map String.toList) =
      if ∀ s ∈ segments, s ≠ "" ∧ s.toList.all isPlain = true then some (path.descend segments)
      else none := by
  induction segments generalizing path with
  | nil => rfl
  | cons s rest ih =>
    have test : (s.toList ≠ [] && s.toList.all isPlain) = true ↔
        s ≠ "" ∧ s.toList.all isPlain = true := by simp
    rw [List.map_cons, descend?, String.ofList_toList, ih]
    by_cases plain : s ≠ "" ∧ s.toList.all isPlain = true
    · rw [if_pos (test.2 plain)]
      exact if_congr (by rw [List.forall_mem_cons, and_iff_right plain]) rfl rfl
    · rw [if_neg (mt test.1 plain), if_neg]
      exact fun all => plain (List.forall_mem_cons.1 all).1

/-- Where a name falls at its points, the path is that of the location with these segments. -/
theorem fileOf?_of_splitOn {l : Location}
    (split : l.name.toList.splitOn '.' = l.segments.map String.toList) :
    d.fileOf? l.name = if l.IsPlain then some (DiskPath.descend ⟨d.root⟩ l.path) else none := by
  have descended : descend? ⟨d.root⟩ (l.segments.map String.toList) =
      if l.IsPlain then some (DiskPath.descend ⟨d.root⟩ l.segments) else none := descend?_eq ..
  rw [fileOf?, split, descended]
  by_cases plain : l.IsPlain
  · -- The extension changes the last component alone, which has no extension of its own.
    have stem := List.mem_append_right l.directories (List.mem_singleton_self l.stem)
    have last : DiskPath.descend ⟨d.root⟩ l.segments =
        (DiskPath.descend ⟨d.root⟩ l.directories).push l.stem := List.foldl_concat ..
    have file : DiskPath.descend ⟨d.root⟩ l.path =
        (DiskPath.descend ⟨d.root⟩ l.directories).push (l.stem ++ ".bnt") := List.foldl_concat ..
    rw [if_pos plain, if_pos plain, Option.map_some, last, file]
    exact congrArg some (DiskPath.withSuffix_push (plain.isPiece _ stem) (plain.isDotless _ stem)
      (by decide))
  · rw [if_neg plain, if_neg plain]
    rfl

/-- The names with a file are those with plain segments, and the file is the root with the
components of the place behind it. -/
theorem fileOf?_eq_some :
    d.fileOf? name = some file ↔
      ∃ l : Location, l.IsPlain ∧ l.name = name ∧ DiskPath.descend ⟨d.root⟩ l.path = file := by
  constructor
  · intro h
    obtain ⟨l, rfl, split⟩ := Location.exists_of_name name
    rw [fileOf?_of_splitOn split] at h
    split_ifs at h with plain
    exact ⟨l, plain, rfl, Option.some.inj h⟩
  · rintro ⟨l, plain, rfl, rfl⟩
    rw [fileOf?_of_splitOn (Location.splitOn_name plain.isDotless), if_pos plain]

/-! ## Paths below the directory -/

/-- The path below the directory at which a partial is looked for: the file of the name as it is
below a root without any components of its own. -/
def pathOf? (name : String) : Option (List String) :=
  (fileOf? ⟨"", default⟩ name).map DiskPath.pieces

/-- The names with a path are those with plain segments, and the path is that of the place. -/
theorem pathOf?_eq_some {path : List String} :
    pathOf? name = some path ↔ ∃ l : Location, l.IsPlain ∧ l.name = name ∧ l.path = path := by
  have pieces : ∀ l : Location, l.IsPlain → (DiskPath.descend ⟨""⟩ l.path).pieces = l.path := by
    intro l plain
    have nothing : DiskPath.base ⟨""⟩ = [] := by decide
    rw [DiskPath.pieces_descend l.path_ne_nil plain.isPiece_path, nothing, List.nil_append]
  rw [pathOf?, Option.map_eq_some_iff]
  simp only [fileOf?_eq_some]
  constructor
  · rintro ⟨_, ⟨l, plain, named, rfl⟩, rfl⟩
    exact ⟨l, plain, named, (pieces l plain).symm⟩
  · rintro ⟨l, plain, named, rfl⟩
    exact ⟨_, ⟨l, plain, named, rfl⟩, pieces l plain⟩

/-- The file of a name is the root with the components of the path behind it. -/
theorem fileOf?_eq_map (d : TemplateDirectory) (name : String) :
    d.fileOf? name = (pathOf? name).map (DiskPath.descend ⟨d.root⟩) := by
  ext file
  rw [fileOf?_eq_some, Option.map_eq_some_iff]
  simp only [pathOf?_eq_some]
  constructor
  · rintro ⟨l, plain, named, rfl⟩
    exact ⟨l.path, ⟨l, plain, named, rfl⟩, rfl⟩
  · rintro ⟨_, ⟨l, plain, named, rfl⟩, rfl⟩
    exact ⟨l, plain, named, rfl⟩

/-- A file at the path of a name has the name: on plain paths both ways are inverse to each other.
-/
theorem partialOf?_of_pathOf? {path : List String} (h : pathOf? name = some path) :
    partialOf? path = some name := by
  obtain ⟨l, plain, rfl, rfl⟩ := pathOf?_eq_some.1 h
  exact partialOf?_path_of_dotless plain.stem_ne plain.isDotless

/-- The file at a plain path has the one name that leads there. -/
theorem partialOf?_eq_some_iff {l : Location} (plain : l.IsPlain) :
    partialOf? l.path = some name ↔ pathOf? name = some l.path := by
  rw [partialOf?_path_of_dotless plain.stem_ne plain.isDotless, Option.some.injEq, pathOf?_eq_some]
  constructor
  · intro same
    exact ⟨l, plain, same, rfl⟩
  · rintro ⟨m, -, same, path⟩
    rw [← same, Location.path_injective path]

/-- The path of a plain place goes down at each step. -/
theorem isStep_of_isPlain {l : Location} (plain : l.IsPlain) :
    ∀ name ∈ l.path, Entry.IsStep name := by
  intro name mem
  rcases List.mem_append.1 mem with directory | file
  · have segment : name ∈ l.segments := List.mem_append_left _ directory
    refine ⟨(plain name segment).1, ?_, ?_⟩
    all_goals
      rintro rfl
      exact plain.isDotless _ segment (by decide)
  -- The file has its extension, and so is neither empty nor made of points.
  · have long : 4 ≤ name.toList.length := by
      rw [List.mem_singleton.1 file, String.toList_append, List.length_append]
      exact Nat.le_add_left ..
    refine ⟨?_, ?_, ?_⟩
    all_goals
      rintro rfl
      exact absurd long (by decide)

/-! ## Reading the file -/

/-- What stands behind the root leads to the place of the partial. Where the root ends without a
slash there is an empty piece in front, which stays in the directory. -/
theorem read_below {l : Location} (plain : l.IsPlain) (d : TemplateDirectory) :
    d.entry.read (d.below (DiskPath.descend ⟨d.root⟩ l.path)) = d.entry.read l.path := by
  have chars : (DiskPath.descend ⟨d.root⟩ l.path).text.toList =
      d.root.toList ++ (DiskPath.separator ⟨d.root⟩ ++ "/".intercalate l.path).toList := by
    rw [DiskPath.text_descend l.path_ne_nil plain.isPiece_path, String.append_assoc,
      String.toList_append]
  have rest : d.below (DiskPath.descend ⟨d.root⟩ l.path) =
      DiskPath.pieces ⟨DiskPath.separator ⟨d.root⟩ ++ "/".intercalate l.path⟩ := by
    rw [below, chars, ← String.length_toList, List.drop_left, String.ofList_toList]
  have pieces : DiskPath.pieces ⟨"/".intercalate l.path⟩ = l.path :=
    DiskPath.pieces_ofPieces l.path_ne_nil plain.isPiece_path
  -- The root ends with a slash or it does not; then the slash that is put there is dropped again.
  rcases DiskPath.separator_cases ⟨d.root⟩ with asItIs | slash
  · rw [rest, asItIs, String.empty_append, pieces]
  · rw [rest, slash, DiskPath.pieces_slash, pieces, Entry.read_empty_cons l.path_ne_nil]

/-- A name without a path has no text. -/
theorem load_of_none (place : pathOf? name = none) : d.load name = .ok none := by
  rw [load, fileOf?_eq_map, place]
  rfl

/-- A name with a path has the text that can be read there. -/
theorem load_of_some {path : List String} {text : String} (place : pathOf? name = some path) :
    d.load name = .ok (some text) ↔ d.entry.read path = .ok text := by
  obtain ⟨l, plain, -, rfl⟩ := pathOf?_eq_some.1 place
  rw [load, fileOf?_eq_map, place, Option.map_some]
  dsimp only
  rw [read_below plain]
  cases found : d.entry.read l.path with
  | ok text => simp
  | error cause => cases cause <;> simp

/-! ## Inside the directory -/

/-- Whether a text can stand between the points of a name: letters and digits of ASCII, `_` and `-`,
and at least one of them. -/
def IsSegment (s : String) : Prop :=
  s ≠ "" ∧ ∀ c ∈ s.toList,
    'A' ≤ c ∧ c ≤ 'Z' ∨ 'a' ≤ c ∧ c ≤ 'z' ∨ '0' ≤ c ∧ c ≤ '9' ∨ c = '_' ∨ c = '-'

/-- A plain character is a letter, a digit, an underscore or a hyphen. -/
theorem isPlain_iff {c : Char} :
    isPlain c = true ↔
      'A' ≤ c ∧ c ≤ 'Z' ∨ 'a' ≤ c ∧ c ≤ 'z' ∨ '0' ≤ c ∧ c ≤ '9' ∨ c = '_' ∨ c = '-' := by
  have upper : c.isUpper = true ↔ 'A' ≤ c ∧ c ≤ 'Z' := decide_eq_true_iff
  have lower : c.isLower = true ↔ 'a' ≤ c ∧ c ≤ 'z' :=
    (Bool.and_eq_true_iff ..).trans (and_congr decide_eq_true_iff decide_eq_true_iff)
  have digit : c.isDigit = true ↔ '0' ≤ c ∧ c ≤ '9' :=
    (Bool.and_eq_true_iff ..).trans (and_congr decide_eq_true_iff decide_eq_true_iff)
  show (c.isUpper || c.isLower || c.isDigit || c == '_' || c == '-') = true ↔ _
  simp only [Bool.or_eq_true, beq_iff_eq, upper, lower, digit, or_assoc]

theorem isPlain_iff_isSegment {l : Location} : l.IsPlain ↔ ∀ s ∈ l.segments, IsSegment s := by
  simp only [Location.IsPlain, IsSegment, List.all_eq_true, isPlain_iff]

/-- A name has a file if and only if there are segments with points between them in it. -/
theorem isSome_fileOf? :
    (d.fileOf? name).isSome = true ↔
      ∃ segments, segments ≠ [] ∧ (∀ s ∈ segments, IsSegment s) ∧
        ".".intercalate segments = name := by
  rw [Option.isSome_iff_exists]
  constructor
  · rintro ⟨file, h⟩
    obtain ⟨l, plain, named, -⟩ := fileOf?_eq_some.1 h
    exact ⟨l.segments, l.segments_ne_nil, isPlain_iff_isSegment.1 plain, named⟩
  · rintro ⟨segments, nonempty, each, named⟩
    obtain ⟨l, rfl⟩ := Location.exists_of_segments nonempty
    exact ⟨_, fileOf?_eq_some.2 ⟨l, isPlain_iff_isSegment.2 each, named, rfl⟩⟩

/-- Only one name leads to a file. -/
theorem eq_of_fileOf? {other : String} (h : d.fileOf? name = some file)
    (h' : d.fileOf? other = some file) : other = name := by
  obtain ⟨l, plain, rfl, path⟩ := fileOf?_eq_some.1 h
  obtain ⟨m, plain', rfl, path'⟩ := fileOf?_eq_some.1 h'
  -- The paths are the same, and so are their pieces behind those of the root.
  have pieces : DiskPath.base ⟨d.root⟩ ++ l.path = DiskPath.base ⟨d.root⟩ ++ m.path := by
    rw [← DiskPath.pieces_descend l.path_ne_nil plain.isPiece_path, path, ← path',
      DiskPath.pieces_descend m.path_ne_nil plain'.isPiece_path]
  rw [Location.path_injective (List.append_cancel_left pieces)]

/-- The text of a partial is that of the file at its place, which is inside the directory. -/
theorem exists_file_of_load {text : String} (loaded : d.load name = .ok (some text)) :
    ∃ (l : Location) (content : List UInt8), (∀ s ∈ l.segments, IsSegment s) ∧ l.name = name ∧
      d.entry.find l.path = .ok (.file content) ∧ (Entry.file content).Inside d.entry ∧
      Entry.decode content = .ok text := by
  cases place : pathOf? name with
  | none =>
    rw [load_of_none place] at loaded
    cases loaded
  | some path =>
    obtain ⟨l, plain, named, rfl⟩ := pathOf?_eq_some.1 place
    obtain ⟨content, found, decoded⟩ := Entry.read_eq_ok_iff.1 ((load_of_some place).1 loaded)
    have inside := Entry.inside_of_find l.path_ne_nil (isStep_of_isPlain plain) found
    exact ⟨l, content, isPlain_iff_isSegment.1 plain, named, found, inside, decoded⟩

/-- **No name leads out of the directory.** A name has a file if and only if it is made of segments
with points between them. Then the path of the file is the root with the segments behind it as its
components, the last one with the extension, and it leads down from the root at each of them. No
other name has this file. The text of a partial is that of the file at its place, and no other. -/
theorem fileOf?_confined (d : TemplateDirectory) (name : String) :
    (∀ file, d.fileOf? name = some file → ∃ l : Location,
      (∀ s ∈ l.segments, IsSegment s) ∧ l.name = name ∧
        file.text = d.root ++ DiskPath.separator ⟨d.root⟩ ++ "/".intercalate l.path ∧
        (∀ piece ∈ l.path, Entry.IsStep piece ∧ '/' ∉ piece.toList) ∧
        DiskPath.GoesDown ⟨d.root⟩ file l.path) ∧
    ((d.fileOf? name).isSome = true ↔
      ∃ segments, segments ≠ [] ∧ (∀ s ∈ segments, IsSegment s) ∧
        ".".intercalate segments = name) ∧
    (∀ other file, d.fileOf? name = some file → d.fileOf? other = some file → other = name) ∧
    ∀ text, d.load name = .ok (some text) →
      ∃ (l : Location) (content : List UInt8), (∀ s ∈ l.segments, IsSegment s) ∧ l.name = name ∧
        d.entry.find l.path = .ok (.file content) ∧ (Entry.file content).Inside d.entry ∧
        Entry.decode content = .ok text := by
  refine ⟨?_, isSome_fileOf?, fun other file => eq_of_fileOf?, fun text => exists_file_of_load⟩
  intro file h
  obtain ⟨l, plain, named, rfl⟩ := fileOf?_eq_some.1 h
  have steps := isStep_of_isPlain plain
  have pieces := plain.isPiece_path
  refine ⟨l, isPlain_iff_isSegment.1 plain, named, DiskPath.text_descend l.path_ne_nil pieces, ?_,
    DiskPath.goesDown_descend l.path_ne_nil steps pieces⟩
  intro piece mem
  exact ⟨steps piece mem, (pieces piece mem).2⟩

/-- The slash at the end of the root is not doubled, and the file beside the root is out of reach.
-/
theorem fileOf?_confined_slash :
    let d : TemplateDirectory :=
      ⟨"views/", .directory [("user", .directory [("card.bnt", .file [85])])]⟩
    let system : Entry := .directory [("secret.bnt", .file []), ("views", d.entry)]
    d.fileOf? "user.card" = some ⟨"views/user/card.bnt"⟩ ∧
      (∃ l : Location, l.name = "user.card" ∧
        Entry.follow [] ["views", "user", "card.bnt"] system = d.entry.find l.path) ∧
      (∀ other, d.fileOf? other = some ⟨"views/user/card.bnt"⟩ → other = "user.card") ∧
      ∃ content, (Entry.file content).Inside d.entry ∧ Entry.decode content = .ok "U" := by
  intro d system
  have file : d.fileOf? "user.card" = some ⟨"views/user/card.bnt"⟩ :=
    fileOf?_eq_some.2 ⟨⟨["user"], "card"⟩, by decide, rfl, by decide⟩
  have place : pathOf? "user.card" = some ["user", "card.bnt"] :=
    pathOf?_eq_some.2 ⟨⟨["user"], "card"⟩, by decide, rfl, rfl⟩
  have loaded : d.load "user.card" = .ok (some "U") := (load_of_some place).2 rfl
  have root : DiskPath.pieces ⟨d.root⟩ = ["views", ""] := by decide
  have pieces : DiskPath.pieces ⟨"views/user/card.bnt"⟩ = ["views", "user", "card.bnt"] := by decide
  have reached : Entry.follow [] (DiskPath.pieces ⟨d.root⟩) system = .ok d.entry := by
    rw [root]
    rfl
  obtain ⟨confined, -, only, inside⟩ := fileOf?_confined d "user.card"
  obtain ⟨l, -, named, -, -, down⟩ := confined _ file
  -- The walk from the root goes on below the directory, and so past the file beside it.
  obtain ⟨goesOn, -⟩ := down [] system d.entry reached
  rw [pieces] at goesOn
  obtain ⟨-, content, -, -, -, within, decoded⟩ := inside "U" loaded
  refine ⟨file, ⟨l, named, goesOn⟩, ?_, content, within, decoded⟩
  intro other same
  exact only other _ file same

end TemplateDirectory

end TextTemplate

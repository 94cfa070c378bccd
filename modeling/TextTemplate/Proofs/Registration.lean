import TextTemplate.Proofs.PartialFiles
import TextTemplate.Proofs.RegistryLog

/-!
# Registered directories

Registering a directory puts the texts of its files of partials into the registry one after the
other (`TemplateDirectory.registerFiles_eq`), and counts the files. A name has the text of the last
file with the name (`resolve_registered_last`), so that nothing is lost if the names differ. They do
where the names of directories and the stems are without points (`nodup_partialNames`), as different
files have different paths. They may not otherwise: `a.b.bnt` and `b.bnt` in `a` have one name, and
the registry holds fewer texts than were counted (`register_counts_files`).

Where the names of directories and the stems are plain, a name is that of a file exactly if it is
read from this file on demand, and both ways to partials agree (`register_agrees_with_load`).
-/

namespace TextTemplate.TemplateDirectory

variable {d : TemplateDirectory} {path : List String} {entries : List (String × Entry)}
  {file : List String × List UInt8} {files before after : List (List String × List UInt8)}
  {name text : String} {resolver : Option Resolver}

/-! ## Files that are registered -/

/-- The files that hold partials. -/
def partials (files : List (List String × List UInt8)) : List (List String × List UInt8) :=
  files.filter (IsPartial ·.1)

/-- Every file that holds a partial is a text. -/
def Readable (files : List (List String × List UInt8)) : Prop :=
  ∀ file ∈ partials files, ∃ text, Entry.decode file.2 = .ok text

/-- The name and the text of a file that holds a partial. -/
def registration? (file : List String × List UInt8) : Option (String × String) := do
  let name ← partialOf? file.1
  let text ← (Entry.decode file.2).toOption
  return (name, text)

/-- The partials with their names and texts, in the order of the files. -/
def registrations (files : List (List String × List UInt8)) : List (String × String) :=
  (partials files).filterMap registration?

/-- The names of the partials, in the order of the files. -/
def partialNames (files : List (List String × List UInt8)) : List String :=
  (partials files).filterMap (partialOf? ·.1)

theorem mem_partials : file ∈ partials files ↔ file ∈ files ∧ IsPartial file.1 := by
  rw [partials, List.mem_filter, decide_eq_true_iff]

/-- A file is registered under the name that its path has, with its decoded text. -/
theorem registration?_eq_some :
    registration? file = some (name, text) ↔
      partialOf? file.1 = some name ∧ Entry.decode file.2 = .ok text := by
  rw [registration?]
  cases partialOf? file.1 with
  | none => simp
  | some n => cases Entry.decode file.2 <;> simp [Except.toOption]

/-- The registrations are those of the partials among the files. -/
theorem mem_registrations :
    (name, text) ∈ registrations files ↔
      ∃ file ∈ partials files, partialOf? file.1 = some name ∧ Entry.decode file.2 = .ok text := by
  simp only [registrations, List.mem_filterMap, registration?_eq_some]

theorem exists_name (mem : file ∈ partials files) : ∃ name, partialOf? file.1 = some name :=
  Option.isSome_iff_exists.1 (isSome_partialOf?.2 (mem_partials.1 mem).2)

theorem registration_of_mem (readable : Readable files) (mem : file ∈ partials files) :
    ∃ name text, registration? file = some (name, text) := by
  obtain ⟨text, decoded⟩ := readable file mem
  obtain ⟨name, named⟩ := exists_name mem
  exact ⟨name, text, registration?_eq_some.2 ⟨named, decoded⟩⟩

theorem length_registrations (readable : Readable files) :
    (registrations files).length = (partials files).length := by
  rw [registrations, List.length_filterMap_eq_countP, List.countP_eq_length]
  intro file mem
  obtain ⟨name, text, registration⟩ := registration_of_mem readable mem
  exact Option.isSome_of_eq_some registration

/-- If all files can be read, the names that are registered are those of the partials. -/
theorem names_registrations (readable : Readable files) :
    Keyed.names (registrations files) = partialNames files := by
  rw [Keyed.names, registrations, List.map_filterMap, partialNames]
  apply List.filterMap_congr
  intro file mem
  obtain ⟨name, text, registration⟩ := registration_of_mem readable mem
  rw [registration, (registration?_eq_some.1 registration).1]
  rfl

/-- Files that can all be read are registered one after the other. -/
theorem registerFiles_eq (readable : Readable files) (base : String) (r : Registry) :
    registerFiles base r files = (.ok (partials files).length,
      { r with templates := Keyed.insertAll r.templates (registrations files) }) := by
  -- Each file changes the registry that those behind it are registered in.
  induction files generalizing r with
  | nil => rfl
  | cons file rest ih =>
    have behind : Readable rest := by
      intro other mem
      obtain ⟨mem, isPartial⟩ := mem_partials.1 mem
      exact readable other (mem_partials.2 ⟨List.mem_cons_of_mem _ mem, isPartial⟩)
    by_cases isPartial : IsPartial file.1
    · obtain ⟨name, text, registration⟩ :=
        registration_of_mem readable (mem_partials.2 ⟨List.mem_cons_self .., isPartial⟩)
      obtain ⟨named, decoded⟩ := registration?_eq_some.1 registration
      have files : partials (file :: rest) = file :: partials rest :=
        List.filter_cons_of_pos (decide_eq_true isPartial)
      have added : registrations (file :: rest) = (name, text) :: registrations rest := by
        rw [registrations, files, List.filterMap_cons_some registration, registrations]
      rw [registerFiles, named, files, added]
      simp only [registerFile, decoded]
      rw [ih behind]
      rfl
    · have files : partials (file :: rest) = partials rest :=
        List.filter_cons_of_neg (by rwa [decide_eq_true_iff])
      rw [registerFiles, partialOf?_eq_none.2 isPartial, registrations, files]
      exact ih behind r

/-! ## What is registered -/

/-- A registry with the partials of a directory and nothing else. -/
def registered (resolver : Option Resolver) (files : List (List String × List UInt8)) : Registry :=
  ⟨Keyed.insertAll [] (registrations files), resolver, 0⟩

/-- If all files can be read, a directory is registered in full, and its partials are counted. -/
theorem register_eq (found : d.entry.find path = .ok (.directory entries))
    (readable : Readable (Entry.filesOf entries)) :
    d.register path (.empty resolver) =
      (.ok (partials (Entry.filesOf entries)).length,
        registered resolver (Entry.filesOf entries)) := by
  rw [register, found]
  exact registerFiles_eq readable _ _

/-- The registry holds one text for each name, however many files have it. -/
theorem size_registered (readable : Readable files) :
    (registered resolver files).size = (partialNames files).toFinset.card := by
  rw [Registry.size, registered, Keyed.length_insertAll, names_registrations readable]

/-- As many texts are held as files were counted exactly if the names differ. -/
theorem size_registered_iff (readable : Readable files) :
    (registered resolver files).size = (partials files).length ↔ (partialNames files).Nodup := by
  have length : (partials files).length = (partialNames files).length := by
    rw [← names_registrations readable, Keyed.names, List.length_map, length_registrations readable]
  rw [size_registered readable, length, List.card_toFinset]
  constructor
  · intro same
    rw [← List.dedup_eq_self]
    exact (List.dedup_sublist _).eq_of_length same
  · intro nodup
    rw [List.dedup_eq_self.2 nodup]

/-- Every name that is held is the name of a file. -/
theorem exists_of_contains (held : (registered resolver files).contains name = true) :
    ∃ file ∈ partials files, partialOf? file.1 = some name := by
  rw [Registry.contains, ← Keyed.mem_names, registered, Keyed.mem_names_insertAll] at held
  have added := held.resolve_right List.not_mem_nil
  obtain ⟨⟨_, text⟩, mem, rfl⟩ := List.mem_map.1 added
  obtain ⟨file, mem, named, -⟩ := mem_registrations.1 mem
  exact ⟨file, mem, named⟩

/-- A name has the text of the last file with the name. -/
theorem resolve_registered_last (readable : Readable files)
    (split : partials files = before ++ file :: after) (named : partialOf? file.1 = some name)
    (last : ∀ other ∈ after, partialOf? other.1 ≠ some name) :
    ∃ text, Entry.decode file.2 = .ok text ∧
      (registered resolver files).resolve name = (.ok (some text), registered resolver files) := by
  have mem : file ∈ partials files := by
    rw [split]
    exact List.mem_append_right _ (List.mem_cons_self ..)
  obtain ⟨text, decoded⟩ := readable file mem
  -- The registrations are split where the files are.
  have registration := registration?_eq_some.2 ⟨named, decoded⟩
  have added : registrations files =
      before.filterMap registration? ++ (name, text) :: after.filterMap registration? := by
    rw [registrations, split, List.filterMap_append, List.filterMap_cons_some registration]
  have noneBehind : name ∉ Keyed.names (after.filterMap registration?) := by
    intro behind
    obtain ⟨⟨_, text⟩, held, rfl⟩ := List.mem_map.1 behind
    obtain ⟨other, mem, registration⟩ := List.mem_filterMap.1 held
    exact last other mem (registration?_eq_some.1 registration).1
  refine ⟨text, decoded, Registry.resolve_of_get? ?_⟩
  rw [registered, added]
  exact Keyed.get?_insertAll_last noneBehind text

/-- If the names differ, each name has the text of its file. -/
theorem resolve_registered (readable : Readable files) (nodup : (partialNames files).Nodup)
    (mem : file ∈ partials files) (named : partialOf? file.1 = some name) :
    ∃ text, Entry.decode file.2 = .ok text ∧
      (registered resolver files).resolve name = (.ok (some text), registered resolver files) := by
  obtain ⟨before, after, split⟩ := List.append_of_mem mem
  have names : (file :: after).filterMap (partialOf? ·.1) =
      name :: after.filterMap (partialOf? ·.1) := List.filterMap_cons_some named
  rw [partialNames, split, List.filterMap_append, names] at nodup
  refine resolve_registered_last readable split named ?_
  intro other behind same
  exact (List.nodup_cons.1 nodup.of_append_right).1 (List.mem_filterMap.2 ⟨other, behind, same⟩)

/-- Without another resolver nothing is found but the texts of files. -/
theorem resolve_registered_iff (readable : Readable files) (nodup : (partialNames files).Nodup) :
    ((registered none files).resolve name).1 = .ok (some text) ↔
      ∃ file ∈ partials files, partialOf? file.1 = some name ∧
        Entry.decode file.2 = .ok text := by
  constructor
  · intro resolved
    -- Without a resolver a name resolves to what is held, which the last registration of it has put
    -- there.
    have held : Keyed.get? name (Keyed.insertAll [] (registrations files)) = some text := by
      rw [Registry.resolve, registered] at resolved
      split at resolved
      · next got => rw [got, Option.some.inj (Except.ok.inj resolved)]
      · cases resolved
    rw [Keyed.get?_insertAll, Keyed.get?_nil, Option.or_none] at held
    exact mem_registrations.1 (List.mem_reverse.1 (Keyed.mem_of_get? held))
  · rintro ⟨file, mem, named, decoded⟩
    obtain ⟨other, same, resolved⟩ := resolve_registered readable nodup mem named
    rw [resolved, Except.ok.inj (same.symm.trans decoded)]

/-! ## Plain and dotless names -/

/-- No directory on the way to a partial and no stem of one has a point in its name. -/
def HasDotlessNames (files : List (List String × List UInt8)) : Prop :=
  ∀ file ∈ partials files, ∃ l : Location, l.stem ≠ "" ∧ l.IsDotless ∧ l.path = file.1

/-- The directories on the way to a partial and the stems have plain names. -/
def HasPlainNames (files : List (List String × List UInt8)) : Prop :=
  ∀ file ∈ partials files, ∃ l : Location, l.IsPlain ∧ l.path = file.1

theorem HasPlainNames.hasDotlessNames (plain : HasPlainNames files) : HasDotlessNames files := by
  intro file mem
  obtain ⟨l, plain, path⟩ := plain file mem
  exact ⟨l, plain.stem_ne, plain.isDotless, path⟩

/-- Files in different places have different names if the names of directories and the stems are
without points. -/
theorem nodup_partialNames (paths : (files.map (·.1)).Nodup) (dotless : HasDotlessNames files) :
    (partialNames files).Nodup := by
  -- One name of two files would be that of one place, and so they would have one path.
  have apart : (partials files).Pairwise (fun file other => file.1 ≠ other.1) :=
    (List.pairwise_map.1 paths).sublist List.filter_sublist
  rw [List.Nodup, partialNames, List.pairwise_filterMap]
  refine apart.imp_of_mem ?_
  intro file other mem mem' differ name named name' named' same
  obtain ⟨l, stem, pointless, path⟩ := dotless file mem
  obtain ⟨m, stem', pointless', path'⟩ := dotless other mem'
  rw [← path, partialOf?_path_of_dotless stem pointless, Option.some.injEq] at named
  rw [← path', partialOf?_path_of_dotless stem' pointless', Option.some.injEq] at named'
  have place : l = m :=
    Location.name_injective pointless pointless' (named.trans (same.trans named'.symm))
  exact differ (path.symm.trans ((congrArg Location.path place).trans path'))

/-- With plain names, a file has a name exactly if it is at the path of the name. -/
theorem HasPlainNames.partialOf?_iff (plain : HasPlainNames files) (mem : file ∈ files) :
    partialOf? file.1 = some name ↔ pathOf? name = some file.1 := by
  refine ⟨?_, partialOf?_of_pathOf?⟩
  -- What has a name is a partial, and so its path is plain.
  intro named
  obtain ⟨l, plain, path⟩ := plain file (mem_partials.2 ⟨mem, isPartial_of_named named⟩)
  rw [← path] at named ⊢
  exact (partialOf?_eq_some_iff plain).1 named

/-! ## Reading on demand -/

/-- A name is read on demand where its path is that of a file. -/
theorem load_eq_some (tree : d.entry.IsTree) :
    d.load name = .ok (some text) ↔
      ∃ file ∈ Entry.files d.entry,
        pathOf? name = some file.1 ∧ Entry.decode file.2 = .ok text := by
  -- A name without a path is read nowhere, and no file is at its path.
  cases place : pathOf? name with
  | none => simp [load_of_none place]
  | some path =>
    have steps : ∀ name ∈ path, Entry.IsStep name := by
      obtain ⟨l, plain, -, rfl⟩ := pathOf?_eq_some.1 place
      exact isStep_of_isPlain plain
    rw [load_of_some place, Entry.read_eq_ok tree steps]
    constructor
    · rintro ⟨content, mem, decoded⟩
      exact ⟨(path, content), mem, rfl, decoded⟩
    · rintro ⟨file, mem, same, decoded⟩
      cases same
      exact ⟨file.2, mem, decoded⟩

/-! ## Both ways -/

/-- With plain names, what is registered is found exactly where it is read on demand. -/
theorem resolve_iff_load (tree : (Entry.directory entries).IsTree)
    (readable : Readable (Entry.filesOf entries)) (plain : HasPlainNames (Entry.filesOf entries))
    (root : String) :
    ((registered none (Entry.filesOf entries)).resolve name).1 = .ok (some text) ↔
      load ⟨root, .directory entries⟩ name = .ok (some text) := by
  have nodup := nodup_partialNames (Entry.nodup_pathsOf tree.1 tree.2) plain.hasDotlessNames
  rw [resolve_registered_iff readable nodup, load_eq_some tree, Entry.files]
  constructor
  · rintro ⟨file, mem, named, decoded⟩
    have listed := (mem_partials.1 mem).1
    exact ⟨file, listed, (plain.partialOf?_iff listed).1 named, decoded⟩
  · rintro ⟨file, listed, place, decoded⟩
    have named := partialOf?_of_pathOf? place
    exact ⟨file, mem_partials.2 ⟨listed, isPartial_of_named named⟩, named, decoded⟩

/-- **A registered directory agrees with one that is read on demand** where the names of directories
and the stems of partials are plain. The same names have the same texts. Every file of partials is
counted and found, under the name that it is read by, and no other name is held. On the files of the
directory the ways from paths to names and from names to paths are inverse to each other. -/
theorem register_agrees_with_load (found : d.entry.find path = .ok (.directory entries))
    (tree : (Entry.directory entries).IsTree) (readable : Readable (Entry.filesOf entries))
    (plain : HasPlainNames (Entry.filesOf entries)) :
    let files := Entry.filesOf entries
    ∃ r, d.register path (.empty none) = (.ok (partials files).length, r) ∧
      r.size = (partials files).length ∧
      (∀ name text, (r.resolve name).1 = .ok (some text) ↔
        load ⟨d.shown path, .directory entries⟩ name = .ok (some text)) ∧
      (∀ file ∈ partials files, ∃ name text, pathOf? name = some file.1 ∧
        Entry.decode file.2 = .ok text ∧ (r.resolve name).1 = .ok (some text)) ∧
      (∀ name, r.contains name = true → ∃ file ∈ partials files, pathOf? name = some file.1) ∧
      (∀ file ∈ files, ∀ name, partialOf? file.1 = some name ↔ pathOf? name = some file.1) ∧
      ∀ name path, pathOf? name = some path → partialOf? path = some name := by
  intro files
  -- Plain names have no points in their components, so no name is registered twice.
  have nodup : (partialNames files).Nodup :=
    nodup_partialNames (Entry.nodup_pathsOf tree.1 tree.2) plain.hasDotlessNames
  have place : ∀ file ∈ partials files, ∀ name,
      partialOf? file.1 = some name → pathOf? name = some file.1 := by
    intro file mem name named
    exact (plain.partialOf?_iff (mem_partials.1 mem).1).1 named
  refine ⟨registered none files, register_eq found readable, (size_registered_iff readable).2 nodup,
    ?_, ?_, ?_, ?_, ?_⟩
  · intro name text
    exact resolve_iff_load tree readable plain _
  · intro file mem
    obtain ⟨name, named⟩ := exists_name mem
    obtain ⟨text, decoded, resolved⟩ := resolve_registered readable nodup mem named
    exact ⟨name, text, place file mem name named, decoded, congrArg Prod.fst resolved⟩
  · intro name held
    obtain ⟨file, mem, named⟩ := exists_of_contains held
    exact ⟨file, mem, place file mem name named⟩
  · intro file mem name
    exact plain.partialOf?_iff mem
  · intro name path
    exact partialOf?_of_pathOf?

/-- A directory inside, a partial beside it that has its name, and a file that is no partial. -/
theorem register_agrees_with_load_nested :
    let entries : List (String × Entry) :=
      [("footer.bnt", .file [67, 111]), ("notes.txt", .file [255]),
        ("user", .directory [("card.bnt", .file [85])]), ("user.bnt", .file [])]
    let d : TemplateDirectory := ⟨"views", .directory entries⟩
    (Entry.directory entries).IsTree ∧ Readable (Entry.filesOf entries) ∧
      ∃ r, d.register [] (.empty none) = (.ok 3, r) ∧ r.size = 3 ∧
        (∀ name text, (r.resolve name).1 = .ok (some text) ↔ d.load name = .ok (some text)) ∧
        (r.resolve "user.card").1 = .ok (some "U") := by
  intro entries d
  have files : partials (Entry.filesOf entries) =
      [(["footer.bnt"], [67, 111]), (["user", "card.bnt"], [85]), (["user.bnt"], [])] := by rfl
  have tree : (Entry.directory entries).IsTree := by
    simp only [entries, Entry.IsTree, Entry.AreTrees]
    decide
  have readable : Readable (Entry.filesOf entries) := by
    rw [Readable, files]
    simp only [List.forall_mem_cons]
    exact ⟨⟨"Co", rfl⟩, ⟨"U", rfl⟩, ⟨"", rfl⟩, List.forall_mem_nil _⟩
  have plain : HasPlainNames (Entry.filesOf entries) := by
    rw [HasPlainNames, files]
    simp only [List.forall_mem_cons]
    exact ⟨⟨⟨[], "footer"⟩, by decide, rfl⟩, ⟨⟨["user"], "card"⟩, by decide, rfl⟩,
      ⟨⟨[], "user"⟩, by decide, rfl⟩, List.forall_mem_nil _⟩
  have found : d.entry.find [] = .ok (.directory entries) := rfl
  have place : pathOf? "user.card" = some ["user", "card.bnt"] :=
    pathOf?_eq_some.2 ⟨⟨["user"], "card"⟩, by decide, rfl, rfl⟩
  obtain ⟨r, registered, size, agree, -⟩ := register_agrees_with_load found tree readable plain
  rw [files] at registered size
  exact ⟨tree, readable, r, registered, size, agree,
    (agree "user.card" "U").2 ((load_of_some place).2 rfl)⟩

/-! ## Names with points -/

/-- **Registering a directory counts files, and the registry holds names.** All files of partials
are counted. The registry holds as many texts as these files have names, for each name the text of
the last file that has it. So it holds as many texts as were counted if and only if no two files
have one name, and then each file is found under its name. That is so if the names of directories
and the stems are without points. -/
theorem register_counts_files (found : d.entry.find path = .ok (.directory entries))
    (tree : (Entry.directory entries).IsTree) (readable : Readable (Entry.filesOf entries))
    (resolver : Option Resolver) :
    let files := Entry.filesOf entries
    ∃ r, d.register path (.empty resolver) = (.ok (partials files).length, r) ∧
      r.size = (partialNames files).toFinset.card ∧
      (∀ before file after name, partials files = before ++ file :: after →
        partialOf? file.1 = some name → (∀ other ∈ after, partialOf? other.1 ≠ some name) →
        ∃ text, Entry.decode file.2 = .ok text ∧ r.resolve name = (.ok (some text), r)) ∧
      (r.size = (partials files).length ↔ (partialNames files).Nodup) ∧
      ((partialNames files).Nodup → ∀ file ∈ partials files, ∃ name text,
        partialOf? file.1 = some name ∧ Entry.decode file.2 = .ok text ∧
          r.resolve name = (.ok (some text), r)) ∧
      (HasDotlessNames files → (partialNames files).Nodup) := by
  intro files
  refine ⟨registered resolver files, register_eq found readable, size_registered readable, ?_,
    size_registered_iff readable, ?_, ?_⟩
  · intro before file after name split named last
    exact resolve_registered_last readable split named last
  · intro nodup file mem
    obtain ⟨name, named⟩ := exists_name mem
    obtain ⟨text, decoded, resolved⟩ := resolve_registered readable nodup mem named
    exact ⟨name, text, named, decoded, resolved⟩
  · intro dotless
    exact nodup_partialNames (Entry.nodup_pathsOf tree.1 tree.2) dotless

/-- Points in stems do no harm as long as the names are different. -/
theorem register_counts_files_apart :
    let entries : List (String × Entry) :=
      [("..bnt", .file [46]), ("user", .directory [("card.v2.bnt", .file [85])])]
    let d : TemplateDirectory := ⟨"views", .directory entries⟩
    (Entry.directory entries).IsTree ∧ Readable (Entry.filesOf entries) ∧
      ∃ r, d.register [] (.empty none) = (.ok 2, r) ∧ r.size = 2 ∧
        r.resolve "user.card.v2" = (.ok (some "U"), r) := by
  intro entries d
  have files : partials (Entry.filesOf entries) =
      [(["..bnt"], [46]), (["user", "card.v2.bnt"], [85])] := by rfl
  have tree : (Entry.directory entries).IsTree := by
    simp only [entries, Entry.IsTree, Entry.AreTrees]
    decide
  have readable : Readable (Entry.filesOf entries) := by
    rw [Readable, files]
    simp only [List.forall_mem_cons]
    exact ⟨⟨".", rfl⟩, ⟨"U", rfl⟩, List.forall_mem_nil _⟩
  have names : partialNames (Entry.filesOf entries) = ["..", "user.card.v2"] := by rfl
  have found : d.entry.find [] = .ok (.directory entries) := rfl
  obtain ⟨r, registered, -, last, size, -⟩ := register_counts_files found tree readable none
  have nodup : (partialNames (Entry.filesOf entries)).Nodup := by
    rw [names]
    decide
  obtain ⟨text, decoded, resolved⟩ :=
    last [(["..bnt"], [46])] (["user", "card.v2.bnt"], [85]) [] "user.card.v2" files rfl
      (List.forall_mem_nil _)
  have same : text = "U" := Except.ok.inj (decoded.symm.trans rfl)
  rw [same] at resolved
  exact ⟨tree, readable, r, registered, size.2 nodup, resolved⟩

/-- Two files with one name are counted twice, and the text of one of them is lost. -/
theorem register_one_name_twice :
    let entries : List (String × Entry) :=
      [("a", .directory [("b.bnt", .file [50])]), ("a.b.bnt", .file [49])]
    let d : TemplateDirectory := ⟨"views", .directory entries⟩
    (Entry.directory entries).IsTree ∧ Readable (Entry.filesOf entries) ∧
      ∃ r, d.register [] (.empty none) = (.ok 2, r) ∧ r.size = 1 ∧
        partialOf? ["a", "b.bnt"] = some "a.b" ∧ Entry.decode [50] = .ok "2" ∧
        (r.resolve "a.b").1 ≠ .ok (some "2") := by
  intro entries d
  have files : partials (Entry.filesOf entries) =
      [(["a", "b.bnt"], [50]), (["a.b.bnt"], [49])] := by rfl
  have tree : (Entry.directory entries).IsTree := by
    simp only [entries, Entry.IsTree, Entry.AreTrees]
    decide
  have readable : Readable (Entry.filesOf entries) := by
    rw [Readable, files]
    simp only [List.forall_mem_cons]
    exact ⟨⟨"2", rfl⟩, ⟨"1", rfl⟩, List.forall_mem_nil _⟩
  refine ⟨tree, readable, ⟨[("a.b", "1")], none, 0⟩, rfl, rfl, rfl, rfl, ?_⟩
  decide

end TextTemplate.TemplateDirectory

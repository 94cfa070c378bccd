import TextTemplate.Proofs.Entries
import TextTemplate.Proofs.History

/-!
# The bytes behind a key

The key of a compiled template is a hash of bytes. These bytes can be read back: no text holds the
byte that ends it, the number of names is always eight bytes long, and of the names with one set of
members there is one list in order. So different sources or sets of names have different bytes
(`CacheKey.preimage_eq_iff`), and two of them share a key only where the hash maps different bytes
to one digest (`Request.same_or_collision`).
-/

namespace TextTemplate

/-! ## Bytes -/

namespace CacheKey

/-- What stands in front of the first mark is determined, and so is what stands behind it. -/
theorem append_mark_inj {α : Type} {mark : α} {as bs rest rest' : List α} (has : mark ∉ as)
    (hbs : mark ∉ bs) : as ++ mark :: rest = bs ++ mark :: rest' ↔ as = bs ∧ rest = rest' := by
  induction as generalizing bs with
  | nil =>
    cases bs with
    | nil => simp
    | cons b bs =>
      -- Here one list is at its mark while the other one goes on.
      have differs : mark ≠ b := fun same => hbs (same ▸ List.mem_cons_self)
      simp [differs]
  | cons a as ih =>
    cases bs with
    | nil =>
      have differs : a ≠ mark := fun same => has (same ▸ List.mem_cons_self)
      simp [differs]
    | cons b bs =>
      have rests := ih (fun mem => has (List.mem_cons_of_mem a mem))
        (fun mem => hbs (List.mem_cons_of_mem b mem))
      simp only [List.cons_append, List.cons.injEq, rests, and_assoc]

/-- UTF-8 has no byte of ones only. -/
theorem ff_not_mem_utf8EncodeChar (c : Char) : (0xff : UInt8) ∉ String.utf8EncodeChar c := by
  have smaller : ∀ n, n < 255 → (0xff : UInt8) ≠ UInt8.ofNat n := by
    intro n small same
    have values := congrArg UInt8.toNat same
    rw [UInt8.toNat_ofNat_of_lt' (Nat.lt_succ_of_lt small)] at values
    exact Nat.ne_of_gt small values
  -- The first byte tells the number of bytes; the others begin with the bits 10.
  delta String.utf8EncodeChar
  simp only
  split
  · simp only [List.mem_singleton]
    exact smaller _ (by omega)
  · split
    · simp only [List.mem_cons, List.not_mem_nil, or_false, not_or]
      exact ⟨smaller _ (by omega), smaller _ (by omega)⟩
    · split
      · simp only [List.mem_cons, List.not_mem_nil, or_false, not_or]
        exact ⟨smaller _ (by omega), smaller _ (by omega), smaller _ (by omega)⟩
      · simp only [List.mem_cons, List.not_mem_nil, or_false, not_or]
        exact ⟨smaller _ (by omega), smaller _ (by omega), smaller _ (by omega),
          smaller _ (by omega)⟩

/-- No text has the byte in its encoding that stands between texts. -/
theorem ff_not_mem_bytes (s : String) :
    (0xff : UInt8) ∉ s.toList.flatMap String.utf8EncodeChar := by
  intro mem
  obtain ⟨c, _, held⟩ := List.mem_flatMap.1 mem
  exact ff_not_mem_utf8EncodeChar c held

/-- A text is determined by its encoding. -/
theorem utf8_inj {s t : String}
    (same : s.toList.flatMap String.utf8EncodeChar = t.toList.flatMap String.utf8EncodeChar) :
    s = t := by
  apply String.toByteArray_inj.1
  rw [← String.ofList_toList (s := s), ← String.ofList_toList (s := t), String.toByteArray_ofList,
    String.toByteArray_ofList, List.utf8Encode, List.utf8Encode, same]

/-- A text can be read back from the front of bytes. -/
theorem terminated_append_inj {s t : String} {rest rest' : List UInt8} :
    terminated s ++ rest = terminated t ++ rest' ↔ s = t ∧ rest = rest' := by
  simp only [terminated, List.append_assoc, List.singleton_append]
  rw [append_mark_inj (ff_not_mem_bytes s) (ff_not_mem_bytes t)]
  exact and_congr_left' ⟨utf8_inj, fun same => same ▸ rfl⟩

/-- Names that end in the separating byte are read back one by one. -/
theorem flatMap_terminated_inj {names others : List String} :
    names.flatMap terminated = others.flatMap terminated ↔ names = others := by
  -- No name is written as nothing, not even the empty one, because of its end.
  have nonempty : ∀ (s : String) (rest : List UInt8), [] ≠ terminated s ++ rest := by
    intro s rest same
    simp [terminated] at same
  induction names generalizing others with
  | nil =>
    cases others with
    | nil => simp
    | cons t others => simp [nonempty t]
  | cons s names ih =>
    cases others with
    | nil => simp [(nonempty s _).symm]
    | cons t others =>
      rw [List.flatMap_cons, List.flatMap_cons, terminated_append_inj, List.cons.injEq]
      exact and_congr_right' ih

theorem length_littleEndian (n : Nat) : (littleEndian n).length = 8 := by
  simp [littleEndian]

/-- The bytes of a key determine the source and the set of the names. -/
theorem preimage_eq_iff {source source' : String} {names names' : List String} :
    preimage source names = preimage source' names' ↔
      source = source' ∧ ∀ n, n ∈ names ↔ n ∈ names' := by
  simp only [preimage, List.append_assoc, terminated_append_inj]
  apply and_congr_right
  rintro rfl
  constructor
  · intro same
    obtain ⟨_, same⟩ := List.append_inj same (by rw [length_littleEndian, length_littleEndian])
    exact Names.ofList_eq_iff.1 (flatMap_terminated_inj.1 same)
  · intro same
    rw [Names.ofList_eq_iff.2 same]

end CacheKey

/-! ## Requests -/

/-- Two different strings of bytes with one digest. -/
def Sip.Collision (as bs : List UInt8) : Prop := as ≠ bs ∧ hash as = hash bs

/-- What is found under the key of an artifact that has just been put in is that artifact. -/
theorem ArtifactCache.eq_of_get?_insert {a b : StampedArtifact} {c : ArtifactCache}
    (found : ((c.insert a).2.get? a.artifact.key).1 = some b) : b = a := by
  rw [get?_fst] at found
  rcases Lru.mem_of_mem_insert (Lru.mem_of_peek? found) with same | ⟨_, other⟩
  · exact congrArg Prod.snd same
  · exact absurd rfl other

namespace Request

variable {p q : Request}

/-- Requests for the same source and the same names have one key. -/
theorem Same.key_eq (same : p.Same q) : p.key = q.key := by
  simp only [key, CacheKey.derive, CacheKey.preimage_eq_iff.2 same]

/-- Requests for the same source and the same names are compiled to the same. -/
theorem Same.compile?_eq (same : p.Same q) : p.compile? = q.compile? :=
  compile?_congr same same.key_eq

/-- Requests with one key are the same, or their bytes collide. -/
theorem same_or_collision (keys : p.key = q.key) :
    p.Same q ∨ Sip.Collision (CacheKey.preimage p.source p.customNames)
      (CacheKey.preimage q.source q.customNames) := by
  by_cases same : p.Same q
  · exact .inl same
  · refine .inr ⟨fun bytes => same (CacheKey.preimage_eq_iff.1 bytes), ?_⟩
    exact congrArg CacheKey.digest keys

/-- What a request has put into a cache answers another that is the same. -/
theorem Same.getOrCompile_insert (same : p.Same q) {a : StampedArtifact}
    (compiled : p.compile? = .ok a.artifact) (c : ArtifactCache) :
    ((c.insert a).2.getOrCompile q.source q.customNames).1.map (·.artifact) = q.compile? := by
  have key : a.artifact.key = .derive q.source q.customNames :=
    (Artifact.key_of_compile? compiled).trans same.key_eq
  cases found : ((c.insert a).2.get? (.derive q.source q.customNames)).1 with
  | some b =>
    rw [ArtifactCache.getOrCompile_of_found found, ← same.compile?_eq, compiled]
    rw [← key] at found
    rw [ArtifactCache.eq_of_get?_insert found]
    rfl
  | none =>
    -- The artifact that was put in has left at once, so the source is compiled again.
    rw [ArtifactCache.getOrCompile_of_missing found, compile?]
    cases Artifact.compile? q.source q.customNames <;> rfl

/-- **Keys are unambiguous.** The bytes behind the keys of two requests are equal exactly if the
requests have the same source and the same set of names; requests with one key that are not the same
are a collision of the hash. Requests that are the same have one key and compile to one artifact,
and what one of them has put into a cache serves the other as well as compiling it again. -/
theorem key_unambiguous (p q : Request) :
    (CacheKey.preimage p.source p.customNames = CacheKey.preimage q.source q.customNames ↔
        p.source = q.source ∧ ∀ n, n ∈ p.customNames ↔ n ∈ q.customNames) ∧
      (p.key = q.key → p.Same q ∨ Sip.Collision (CacheKey.preimage p.source p.customNames)
        (CacheKey.preimage q.source q.customNames)) ∧
      (p.Same q → p.key = q.key ∧ p.compile? = q.compile? ∧
        ∀ (c : ArtifactCache) (a : StampedArtifact), p.compile? = .ok a.artifact →
          ((c.insert a).2.getOrCompile q.source q.customNames).1.map (·.artifact) =
            q.compile?) := by
  refine ⟨CacheKey.preimage_eq_iff, same_or_collision, ?_⟩
  intro same
  refine ⟨same.key_eq, same.compile?_eq, ?_⟩
  exact fun c a compiled => same.getOrCompile_insert compiled c

/-- Names in another order and with repetitions give the same request. -/
example : (⟨"x", ["b", "a", "b"]⟩ : Request).key = (⟨"x", ["a", "b"]⟩ : Request).key := by
  decide +kernel

end Request

end TextTemplate

import Mathlib
import TextTemplate.Proofs.Entries
import TextTemplate.Value.Datum

/-!
# Maps with integer keys

A map may be handed over with integers as its keys, of any of the eight types of 8 to 64 bits with
and without a sign. A key stands under its decimal text then, and as different integers have
different texts, no entry takes the place of another (`Datum.toValue?_integerMap`). The exception
are the integers without a sign that 64 bits with a sign do not hold. They become floating-point
numbers, which are no names, and so a map with such a key has no value.
-/

namespace TextTemplate

/-- An integer of one of the types that a program has for them. -/
inductive MachineInteger where
  | signed8 (n : Int8)
  | signed16 (n : Int16)
  | signed32 (n : Int32)
  | signed64 (n : Int64)
  | unsigned8 (n : UInt8)
  | unsigned16 (n : UInt16)
  | unsigned32 (n : UInt32)
  | unsigned64 (n : UInt64)

namespace MachineInteger

def toInt : MachineInteger → Int
  | signed8 n => n.toInt
  | signed16 n => n.toInt
  | signed32 n => n.toInt
  | signed64 n => n.toInt
  | unsigned8 n => n.toNat
  | unsigned16 n => n.toNat
  | unsigned32 n => n.toNat
  | unsigned64 n => n.toNat

/-- The integer as data. -/
def datum : MachineInteger → Datum
  | signed8 n => .signed n.toInt64
  | signed16 n => .signed n.toInt64
  | signed32 n => .signed n.toInt64
  | signed64 n => .signed n
  | unsigned8 n => .unsigned n.toUInt64
  | unsigned16 n => .unsigned n.toUInt64
  | unsigned32 n => .unsigned n.toUInt64
  | unsigned64 n => .unsigned n

/-- The decimal text. -/
def digits (k : MachineInteger) : String := toString k.toInt

/-- Whether 64 bits with a sign hold the integer. Only the widest type without a sign has others. -/
def Fits : MachineInteger → Prop
  | unsigned64 n => n.toNat < Nat.pow 2 63
  | _ => True

/-- A key fits if it is below the bound of signed words; below zero there is no bound to meet. -/
theorem fits_iff {k : MachineInteger} : k.Fits ↔ k.toInt < Nat.pow 2 63 := by
  have power : ((Nat.pow 2 63 : Nat) : Int) = 9223372036854775808 := by decide
  -- All types but the widest unsigned one lie within the bound.
  cases k with
  | signed8 n =>
    have bound : n.toInt < 128 := n.toInt_lt
    exact iff_of_true trivial (by rw [toInt]; omega)
  | signed16 n =>
    have bound : n.toInt < 32768 := n.toInt_lt
    exact iff_of_true trivial (by rw [toInt]; omega)
  | signed32 n =>
    have bound : n.toInt < 2147483648 := n.toInt_lt
    exact iff_of_true trivial (by rw [toInt]; omega)
  | signed64 n => exact iff_of_true trivial n.toInt_lt
  | unsigned8 n =>
    have bound : n.toNat < 256 := n.toNat_lt
    exact iff_of_true trivial (by rw [toInt]; omega)
  | unsigned16 n =>
    have bound : n.toNat < 65536 := n.toNat_lt
    exact iff_of_true trivial (by rw [toInt]; omega)
  | unsigned32 n =>
    have bound : n.toNat < 4294967296 := n.toNat_lt
    exact iff_of_true trivial (by rw [toInt]; omega)
  | unsigned64 n => exact Int.ofNat_lt.symm

instance : DecidablePred Fits := fun _ => decidable_of_iff _ fits_iff.symm

/-- As data an integer has a sign, or it has none. -/
theorem datum_cases (k : MachineInteger) :
    (∃ m : Int64, k.datum = .signed m ∧ m.toInt = k.toInt) ∨
      ∃ m : UInt64, k.datum = .unsigned m ∧ m.toNat = k.toInt := by
  cases k with
  | signed8 n => exact .inl ⟨n.toInt64, rfl, n.toInt_toInt64⟩
  | signed16 n => exact .inl ⟨n.toInt64, rfl, n.toInt_toInt64⟩
  | signed32 n => exact .inl ⟨n.toInt64, rfl, n.toInt_toInt64⟩
  | signed64 n => exact .inl ⟨n, rfl, rfl⟩
  | unsigned8 n => exact .inr ⟨n.toUInt64, rfl, congrArg Nat.cast n.toNat_toUInt64⟩
  | unsigned16 n => exact .inr ⟨n.toUInt64, rfl, congrArg Nat.cast n.toNat_toUInt64⟩
  | unsigned32 n => exact .inr ⟨n.toUInt64, rfl, congrArg Nat.cast n.toNat_toUInt64⟩
  | unsigned64 n => exact .inr ⟨n, rfl, rfl⟩

end MachineInteger

namespace Datum

/-! ## Keys -/

/-- The name that data stands for as a key. -/
def key? (d : Datum) : Except ValueError String := d.toValue?.bind nameOf?

/-- A key that fits stands under its decimal text. -/
theorem key?_of_fits {k : MachineInteger} (fits : k.Fits) : key? k.datum = .ok k.digits := by
  rcases k.datum_cases with ⟨m, data, same⟩ | ⟨m, data, same⟩
  · rw [key?, data, toValue?, MachineInteger.digits, ← same]
    rfl
  · rw [MachineInteger.fits_iff, ← same, Int.ofNat_lt] at fits
    have exact : (Int64.ofNat m.toNat).toInt = m.toNat := Int64.toInt_ofNat_of_lt fits
    rw [key?, data, toValue?, ofUnsigned, if_pos fits, MachineInteger.digits, ← same, ← exact]
    rfl

/-- A key that does not fit is a floating-point number, which is no name. -/
theorem key?_of_not_fits {k : MachineInteger} (wide : ¬k.Fits) :
    key? k.datum = .error (.keyMustBeString "float") := by
  rcases k.datum_cases with ⟨m, data, same⟩ | ⟨m, data, same⟩
  · rw [MachineInteger.fits_iff, ← same] at wide
    exact absurd m.toInt_lt wide
  · rw [MachineInteger.fits_iff, ← same, Int.ofNat_lt] at wide
    rw [key?, data, toValue?, ofUnsigned, if_neg wide]
    rfl

/-! ## Maps -/

/-- The parts of a map that hands over each key with its value. -/
def parts (entries : List (Datum × Datum)) : List (MapRole × Datum) :=
  entries.flatMap fun (k, v) => [(.key, k), (.value, v)]

/-- A pair is converted by its key first, then by its value, and is put into the map before the
pairs behind it. -/
theorem toEntries?_parts_cons (k d : Datum) (rest : List (Datum × Datum))
    (before : List (String × Value)) :
    toEntries? none before (parts ((k, d) :: rest)) =
      (key? k).bind fun name => (toValue? d).bind fun v =>
        toEntries? none (Keyed.insert name v before) (parts rest) := by
  have first : parts ((k, d) :: rest) = (.key, k) :: (.value, d) :: parts rest := rfl
  rw [first, toEntries?, key?]
  cases toValue? k <;> rfl

/-- A key and its value as data stand for a name and its value. -/
def StandsFor (pair : Datum × Datum) (entry : String × Value) : Prop :=
  key? pair.1 = .ok entry.1 ∧ toValue? pair.2 = .ok entry.2

/-- The entries are added in the order in which they are handed over. -/
theorem toEntries?_parts {pairs : List (Datum × Datum)} {added : List (String × Value)}
    (h : List.Forall₂ StandsFor pairs added) (before : List (String × Value)) :
    toEntries? none before (parts pairs) = .ok (Keyed.insertAll before added) := by
  -- No key is pending between one pair and the next, but the entries grow.
  induction h generalizing before with
  | nil => rfl
  | @cons pair entry pairs added stands _ ih =>
    rw [toEntries?_parts_cons, stands.1, Except.bind, stands.2, Except.bind]
    exact ih (Keyed.insert entry.1 entry.2 before)

/-- The first key that is no name is what is wrong with a map, when its values convert. -/
theorem toEntries?_parts_error {pairs : List (Datum × Datum)} {e : ValueError}
    (convert : ∀ pair ∈ pairs, ∃ v, toValue? pair.2 = .ok v)
    (keys : ∀ pair ∈ pairs, (∃ name, key? pair.1 = .ok name) ∨ key? pair.1 = .error e)
    (refused : ∃ pair ∈ pairs, key? pair.1 = .error e) (before : List (String × Value)) :
    toEntries? none before (parts pairs) = .error e := by
  induction pairs generalizing before with
  | nil => simp at refused
  | cons pair rest ih =>
    obtain ⟨here, behind⟩ := List.forall_mem_cons.1 convert
    obtain ⟨key, keys⟩ := List.forall_mem_cons.1 keys
    rw [toEntries?_parts_cons]
    rcases key with ⟨name, key⟩ | key
    · -- A name and a value are added, and the refused key is behind them.
      obtain ⟨v, here⟩ := here
      have later : ∃ pair ∈ rest, key? pair.1 = .error e := by
        obtain ⟨other, mem, fails⟩ := refused
        rcases List.mem_cons.1 mem with rfl | mem
        · rw [key] at fails
          cases fails
        · exact ⟨other, mem, fails⟩
      rw [key, here]
      exact ih behind keys later _
    · rw [key]
      rfl

/-- A map with integers as its keys. -/
def integerMap (entries : List (MachineInteger × Datum)) : Datum :=
  ofEntries (entries.map fun entry => (entry.1.datum, entry.2))

theorem toValue?_ofEntries (pairs : List (Datum × Datum)) :
    toValue? (ofEntries pairs) = (toEntries? none [] (parts pairs)).map .map := by
  rw [ofEntries, toValue?, ← parts]
  cases toEntries? none [] (parts pairs) <;> rfl

section IntegerMap

variable {entries : List (MachineInteger × Datum)}

/-- The texts of integers differ as the integers do. -/
theorem nodup_digits (distinct : (entries.map (·.1.toInt)).Nodup) :
    (entries.map (·.1.digits)).Nodup := by
  have texts : entries.map (·.1.digits) = (entries.map (·.1.toInt)).map toString :=
    List.map_map.symm
  rw [texts]
  exact distinct.map fun _ _ same => Int.repr_injective same

/-- If all keys fit, the values are added under the texts of the keys. -/
theorem toValue?_integerMap_of_fits {value : MachineInteger × Datum → Value}
    (fits : ∀ entry ∈ entries, entry.1.Fits)
    (convert : ∀ entry ∈ entries, toValue? entry.2 = .ok (value entry)) :
    toValue? (integerMap entries) =
      .ok (.map (Keyed.insertAll [] (entries.map fun entry => (entry.1.digits, value entry)))) := by
  have stands : List.Forall₂ StandsFor (entries.map fun entry => (entry.1.datum, entry.2))
      (entries.map fun entry => (entry.1.digits, value entry)) := by
    rw [List.forall₂_map_left_iff, List.forall₂_map_right_iff, List.forall₂_same]
    intro entry mem
    exact ⟨key?_of_fits (fits entry mem), convert entry mem⟩
  rw [integerMap, toValue?_ofEntries, toEntries?_parts stands]
  rfl

/-- One key that does not fit is enough for the map to have no value. -/
theorem toValue?_integerMap_of_not_fits {wide : MachineInteger × Datum} (mem : wide ∈ entries)
    (notFits : ¬wide.1.Fits) (convert : ∀ entry ∈ entries, ∃ v, toValue? entry.2 = .ok v) :
    toValue? (integerMap entries) = .error (.keyMustBeString "float") := by
  have keys : ∀ entry ∈ entries, (∃ name, key? entry.1.datum = .ok name) ∨
      key? entry.1.datum = .error (.keyMustBeString "float") := by
    intro entry _
    by_cases fits : entry.1.Fits
    · exact .inl ⟨entry.1.digits, key?_of_fits fits⟩
    · exact .inr (key?_of_not_fits fits)
  rw [integerMap, toValue?_ofEntries, toEntries?_parts_error (List.forall_mem_map.2 convert)
    (List.forall_mem_map.2 keys) ⟨_, List.mem_map_of_mem mem, key?_of_not_fits notFits⟩]
  rfl

/-- **Different integers are the keys of different entries.** Let the values of a map convert. If
its keys all fit, it has one entry for each of them, under the decimal text of the key and with its
value. If there is a key that does not fit, it has no value. -/
theorem toValue?_integerMap (distinct : (entries.map (·.1.toInt)).Nodup)
    (convert : ∀ entry ∈ entries, ∃ v, toValue? entry.2 = .ok v) :
    ((∀ entry ∈ entries, entry.1.Fits) →
      ∃ held, toValue? (integerMap entries) = .ok (.map held) ∧
        Keyed.Sorted held ∧ held.length = entries.length ∧
        (∀ name, name ∈ Keyed.names held ↔ ∃ entry ∈ entries, name = entry.1.digits) ∧
        ∀ entry ∈ entries, ∀ v, toValue? entry.2 = .ok v →
          Keyed.get? entry.1.digits held = some v) ∧
    ((∃ entry ∈ entries, ¬entry.1.Fits) →
      toValue? (integerMap entries) = .error (.keyMustBeString "float")) := by
  constructor
  · intro fits
    choose! value convert using convert
    let added := entries.map fun entry => (entry.1.digits, value entry)
    have names : Keyed.names added = entries.map (·.1.digits) := List.map_map
    -- So no entry takes the place of another.
    have nodup : (Keyed.names added).Nodup := names ▸ nodup_digits distinct
    refine ⟨Keyed.insertAll [] added, toValue?_integerMap_of_fits fits convert,
      Keyed.sorted_nil.insertAll added, ?_, ?_, ?_⟩
    · rw [Keyed.length_insertAll, List.toFinset_card_of_nodup nodup, names, List.length_map]
    · intro name
      have nothing : ¬name ∈ Keyed.names ([] : List (String × Value)) := List.not_mem_nil
      rw [Keyed.mem_names_insertAll, or_iff_left nothing, names, List.mem_map]
      simp only [eq_comm]
    · intro entry mem v converts
      have only : value entry = v := Except.ok.inj ((convert entry mem).symm.trans converts)
      rw [← only]
      exact Keyed.get?_insertAll_of_mem nodup (List.mem_map_of_mem mem)
  · rintro ⟨wide, mem, notFits⟩
    exact toValue?_integerMap_of_not_fits mem notFits convert

/-- Keys of three types make up a map, which one more key refuses that is too wide. -/
theorem toValue?_integerMap_wide :
    let small : List (MachineInteger × Datum) :=
      [(.signed8 (-7), .bool true), (.unsigned64 7, .text "seven"), (.signed64 70, .nothing)]
    let large := (.unsigned64 9223372036854775808, .nothing) :: small
    (small.map (·.1.toInt)).Nodup ∧ (∀ entry ∈ small, entry.1.Fits) ∧
      (∃ held, toValue? (integerMap small) = .ok (.map held) ∧ held.length = 3 ∧
        Keyed.get? "-7" held = some (.bool true)) ∧
      toValue? (integerMap large) = .error (.keyMustBeString "float") := by
  intro small large
  have distinct : (large.map (·.1.toInt)).Nodup := by decide
  have apart : (small.map (·.1.toInt)).Nodup := (List.nodup_cons.1 distinct).2
  have convert : ∀ entry ∈ large, ∃ v, toValue? entry.2 = .ok v := by
    simp [large, small, toValue?]
  have fits : ∀ entry ∈ small, entry.1.Fits := by decide
  obtain ⟨held, same, -, length, -, get⟩ :=
    (toValue?_integerMap apart (List.forall_mem_cons.1 convert).2).1 fits
  have first : (MachineInteger.signed8 (-7), Datum.bool true) ∈ small := List.mem_cons_self ..
  refine ⟨apart, fits, ⟨held, same, length, ?_⟩, ?_⟩
  · exact get _ first (.bool true) (by rw [toValue?])
  -- The key beyond the bound refuses the whole map, wherever it stands.
  · exact (toValue?_integerMap distinct convert).2 ⟨_, List.mem_cons_self .., by decide⟩

/-- An integer beyond those with a sign is no key. -/
theorem toValue?_integerMap_refused :
    let entries : List (MachineInteger × Datum) := [(.unsigned64 9223372036854775808, .nothing)]
    (entries.map (·.1.toInt)).Nodup ∧ (∀ entry ∈ entries, ∃ v, toValue? entry.2 = .ok v) ∧
      ¬∃ held, toValue? (integerMap entries) = .ok (.map held) := by
  intro entries
  refine ⟨by decide, ?_, ?_⟩
  · simp [entries, toValue?]
  · rintro ⟨held, same⟩
    have refused : toValue? (integerMap entries) = .error (.keyMustBeString "float") := by rfl
    rw [refused] at same
    cases same

end IntegerMap

end Datum

end TextTemplate

import TextTemplate.Value

/-!
# Values from data

`Datum` is what a program hands over as data: its scalars, its optional and wrapped values, its
sequences, maps and records. `Datum.toValue?` turns it into a value. Integers beyond 64 bits with a
sign become floating-point numbers; the keys of a map must come out as texts, integers or booleans
and become texts; of two entries with one name the later stays.

`Value.toDatum` goes the other way. A value comes back as it was, except that dates come back as
their texts.
-/

namespace TextTemplate

/-- Whether a part of a map is a key or the value of the key before it. -/
inductive MapRole where
  | key
  | value
deriving DecidableEq, Repr

/-- The integers that are too wide for a value. -/
inductive WideInteger where
  | signed
  | unsigned
deriving DecidableEq, Repr

/-- Data of a program. -/
inductive Datum where
  | nothing
  | bool (b : Bool)
  | signed (n : Int64)
  | unsigned (n : UInt64)
  | wide (kind : WideInteger)
  | float (x : Binary64)
  | char (c : Char)
  | text (s : String)
  | bytes (bs : List UInt8)
  /-- A value in a wrapper that does not show. -/
  | wrapped (inner : Datum)
  /-- An alternative without data, by its name. -/
  | variant (name : String)
  | sequence (items : List Datum)
  /-- Keys and values as they are handed over. -/
  | map (parts : List (MapRole × Datum))
  | record (fields : List (String × Datum))
  /-- Data that refuses to be handed over. -/
  | failing (message : String)

/-- Why data is no value. -/
inductive ValueError where
  /-- A key is of a type that is no name. -/
  | keyMustBeString (found : String)
  /-- A value was handed over without a key. -/
  | missingKey
  | unsupported (kind : WideInteger)
  | failed (message : String)
deriving DecidableEq, Repr

namespace ValueError

def message : ValueError → String
  | keyMustBeString found => "Map keys must be strings, found " ++ found
  | missingKey => "Value error: Missing key for value"
  | unsupported .signed => "Value error: i128 is not supported"
  | unsupported .unsigned => "Value error: u128 is not supported"
  | failed message => "Value error: " ++ message

end ValueError

namespace Datum

instance : Inhabited Datum := ⟨nothing⟩

/-- A map that hands over each key with its value. -/
def ofEntries (entries : List (Datum × Datum)) : Datum :=
  map (entries.flatMap fun (k, v) => [(.key, k), (.value, v)])

/-- The value of an integer without a sign. -/
def ofUnsigned (n : UInt64) : Value :=
  if n.toNat < Nat.pow 2 63 then .integer (Int64.ofNat n.toNat) else .float (Binary64.ofNat n.toNat)

/-- The name that a key stands for. -/
def nameOf? : Value → Except ValueError String
  | .text s => .ok s
  | .integer n => .ok (Value.integer n).display
  | .bool b => .ok (Value.bool b).display
  | v => .error (.keyMustBeString v.typeName)

mutual

/-- The value that data stands for. -/
def toValue? : Datum → Except ValueError Value
  | nothing => .ok .null
  | bool b => .ok (.bool b)
  | signed n => .ok (.integer n)
  | unsigned n => .ok (ofUnsigned n)
  | wide kind => .error (.unsupported kind)
  | float x => .ok (.float x)
  | char c => .ok (.text (String.singleton c))
  | text s => .ok (.text s)
  | bytes bs => .ok (.list (bs.map fun b => .integer (Int64.ofNat b.toNat)))
  | wrapped inner => toValue? inner
  | variant name => .ok (.text name)
  | sequence items => do
    let values ← toValues? items
    return .list values
  | map parts => do
    let entries ← toEntries? none [] parts
    return .map entries
  | record fields => do
    let entries ← toFields? [] fields
    return .map entries
  | failing message => .error (.failed message)

/-- The values of the members of a sequence. -/
def toValues? : List Datum → Except ValueError (List Value)
  | [] => .ok []
  | d :: rest => do
    let v ← toValue? d
    let vs ← toValues? rest
    return v :: vs

/-- The entries of a map, where `pending` is the last key and `entries` are those before it. -/
def toEntries? (pending : Option String) (entries : List (String × Value)) :
    List (MapRole × Datum) → Except ValueError (List (String × Value))
  | [] => .ok entries
  | (.key, d) :: rest => do
    let v ← toValue? d
    let name ← nameOf? v
    toEntries? (some name) entries rest
  | (.value, d) :: rest => do
    let v ← toValue? d
    match pending with
    | none => .error .missingKey
    | some name => toEntries? none (Keyed.insert name v entries) rest

/-- The entries of a record, added to those of the fields before. -/
def toFields? (entries : List (String × Value)) :
    List (String × Datum) → Except ValueError (List (String × Value))
  | [] => .ok entries
  | (name, d) :: rest => do
    let v ← toValue? d
    toFields? (Keyed.insert name v entries) rest

end

end Datum

namespace Value

mutual

/-- A value as data. Dates are handed over as their texts. -/
def toDatum : Value → Datum
  | null => .nothing
  | bool b => .bool b
  | integer n => .signed n
  | float x => .float x
  | text s => .text s
  | date d => .text d.text
  | dateTime t => .text t.text
  | dateTimeUtc t => .text t.utcText
  | list items => .sequence (toData items)
  | map entries => .map (toParts entries)

def toData : List Value → List Datum
  | [] => []
  | v :: rest => toDatum v :: toData rest

def toParts : List (String × Value) → List (MapRole × Datum)
  | [] => []
  | (name, v) :: rest => (.key, .text name) :: (.value, toDatum v) :: toParts rest

end

end Value

end TextTemplate

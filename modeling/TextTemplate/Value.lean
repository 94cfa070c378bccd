import TextTemplate.Calendar.Format
import TextTemplate.Decimal.Format
import TextTemplate.Keyed

/-!
# Values

The data that templates are rendered with: nothing, booleans, integers of 64 bits, floating-point
numbers, texts, dates, lists and maps. The entries of a map stand in the order of their names.

`Value.text` is what an interpolation shows, `Value.json` is the compact JSON text; a map shows as
its JSON text. `Value.equals` compares numbers by their value, so that it is not reflexive.
-/

namespace TextTemplate

/-- A tree of data. -/
inductive Value where
  | null
  | bool (b : Bool)
  | integer (n : Int64)
  | float (x : Binary64)
  | text (s : String)
  | date (d : Date)
  | dateTime (t : DateTime)
  | dateTimeUtc (t : DateTime)
  | list (items : List Value)
  | map (entries : List (String × Value))
deriving Repr

namespace Value

instance : Inhabited Value := ⟨null⟩

def isNull : Value → Bool
  | null => true
  | _ => false

/-- Whether a condition on the value holds. Lists, maps and dates count whatever they hold. -/
def isTruthy : Value → Bool
  | null => false
  | bool b => b
  | integer n => n != 0
  | float x => !x.isZero && !x.isNaN
  | text s => !s.isEmpty
  | _ => true

/-- How messages name the type of a value. -/
def typeName : Value → String
  | null => "null"
  | bool _ => "bool"
  | integer _ => "integer"
  | float _ => "float"
  | text _ => "string"
  | date _ => "date"
  | dateTime _ => "datetime"
  | dateTimeUtc _ => "datetime"
  | list _ => "list"
  | map _ => "map"

/-- The text, if the value is one. -/
def asText? : Value → Option String
  | text s => some s
  | _ => none

/-- The entry of a map; other values have none. -/
def get? (name : String) : Value → Option Value
  | map entries => Keyed.get? name entries
  | _ => none

/-- What a path through nested maps leads to. -/
def getPath? : List String → Value → Option Value
  | [], v => some v
  | name :: rest, v =>
    match v.get? name with
    | some inner => getPath? rest inner
    | none => none

/-! ## JSON text -/

/-- A hexadecimal digit. -/
def hexDigit (n : Nat) : Char :=
  if n < 10 then Char.ofNat (48 + n) else Char.ofNat (87 + n)

/-- A character inside a JSON string. -/
def jsonChar (c : Char) : List Char :=
  if c = '"' then ['\\', '"']
  else if c = '\\' then ['\\', '\\']
  else if c = '\n' then ['\\', 'n']
  else if c = '\r' then ['\\', 'r']
  else if c = '\t' then ['\\', 't']
  else if c.toNat = 8 then ['\\', 'b']
  else if c.toNat = 12 then ['\\', 'f']
  else if c.toNat < 32 then ['\\', 'u', '0', '0', hexDigit (c.toNat / 16), hexDigit (c.toNat % 16)]
  else [c]

/-- A text as a JSON string. -/
def jsonString (s : String) : String :=
  String.ofList ('"' :: s.toList.flatMap jsonChar ++ ['"'])

mutual

/-- The compact JSON text of a value; dates are strings. -/
def json : Value → String
  | null => "null"
  | bool b => if b then "true" else "false"
  | integer n => toString n.toInt
  | float x => FloatFormat.json.text x
  | text s => jsonString s
  | date d => jsonString d.text
  | dateTime t => jsonString t.text
  | dateTimeUtc t => jsonString t.utcText
  | list items => "[" ++ ",".intercalate (jsonItems items) ++ "]"
  | map entries => "\x7b" ++ ",".intercalate (jsonEntries entries) ++ "\x7d"

/-- The JSON texts of the members of a list. -/
def jsonItems : List Value → List String
  | [] => []
  | v :: rest => json v :: jsonItems rest

/-- The JSON texts of the entries of a map. -/
def jsonEntries : List (String × Value) → List String
  | [] => []
  | (name, v) :: rest => (jsonString name ++ ":" ++ json v) :: jsonEntries rest

end

/-! ## Displayed text -/

mutual

/-- The text that an interpolation of the value shows. -/
def display : Value → String
  | null => ""
  | bool b => if b then "true" else "false"
  | integer n => toString n.toInt
  | float x => FloatFormat.display.text x
  | text s => s
  | date d => d.text
  | dateTime t => t.text
  | dateTimeUtc t => t.utcText
  | list items => ",".intercalate (displayItems items)
  | map entries => json (map entries)

/-- The texts that the members of a list show. -/
def displayItems : List Value → List String
  | [] => []
  | v :: rest => display v :: displayItems rest

end

/-! ## Equality -/

mutual

/-- Equality of values. Numbers are equal when they are numerically, values of different types
never. -/
def equals : Value → Value → Bool
  | null, null => true
  | bool a, bool b => a == b
  | integer a, integer b => a == b
  | float a, float b => a.equals b
  | text a, text b => a == b
  | date a, date b => a == b
  | dateTime a, dateTime b => a == b
  | dateTimeUtc a, dateTimeUtc b => a == b
  | list a, list b => equalItems a b
  | map a, map b => equalEntries a b
  | _, _ => false

def equalItems : List Value → List Value → Bool
  | [], [] => true
  | a :: as, b :: bs => equals a b && equalItems as bs
  | _, _ => false

def equalEntries : List (String × Value) → List (String × Value) → Bool
  | [], [] => true
  | (m, a) :: as, (n, b) :: bs => m == n && equals a b && equalEntries as bs
  | _, _ => false

end

/-! ## Order of entries -/

mutual

/-- Every map in the value lists its names in increasing order. -/
def WellFormed : Value → Prop
  | list items => WellFormedItems items
  | map entries => (Keyed.names entries).Pairwise (· < ·) ∧ WellFormedEntries entries
  | _ => True

def WellFormedItems : List Value → Prop
  | [] => True
  | v :: rest => WellFormed v ∧ WellFormedItems rest

def WellFormedEntries : List (String × Value) → Prop
  | [] => True
  | (_, v) :: rest => WellFormed v ∧ WellFormedEntries rest

end

end Value

end TextTemplate

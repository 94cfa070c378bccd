import TextTemplate.Hash.Sip
import TextTemplate.Names

/-!
# Keys of compiled templates

A compiled template depends on its source and on the set of the names of the added helpers. Its key
is a hash of both: of the bytes of the source, the number of names and the bytes of each name, where
texts end in a byte that no text holds.
-/

namespace TextTemplate

/-- The key of a compiled template. -/
structure CacheKey where
  digest : UInt64
deriving DecidableEq, Repr

namespace CacheKey

/-- The bytes of a text in UTF-8, and a byte that ends it. -/
def terminated (s : String) : List UInt8 := s.toList.flatMap String.utf8EncodeChar ++ [0xff]

/-- The eight bytes of a number, least significant first. -/
def littleEndian (n : Nat) : List UInt8 :=
  (List.range 8).map fun i => UInt8.ofNat (n / Nat.pow 256 i)

/-- The bytes that a key is the hash of. -/
def preimage (source : String) (names : List String) : List UInt8 :=
  let names := Names.ofList names
  terminated source ++ littleEndian names.length ++ names.flatMap terminated

/-- The key of a source and of the names of the added helpers, in any order. -/
def derive (source : String) (names : List String) : CacheKey :=
  ⟨Sip.hash (preimage source names)⟩

/-- The key in sixteen hexadecimal digits. -/
def text (key : CacheKey) : String :=
  let digits := Nat.toDigits 16 key.digest.toNat
  String.ofList (List.replicate (16 - digits.length) '0' ++ digits)

/-- The name of the entry point of the template with this key. -/
def entryPoint (key : CacheKey) : String := "render_" ++ key.text

end CacheKey

end TextTemplate

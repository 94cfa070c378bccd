/-!
# SipHash

The keyed hash function SipHash with one round per word and three rounds at the end, for the key
zero. A message is read in words of eight bytes, least significant byte first; the last word holds
the remaining bytes and, in its highest byte, the length of the message.
-/

namespace TextTemplate.Sip

/-- The four words of the state. -/
structure State where
  v0 : UInt64
  v1 : UInt64
  v2 : UInt64
  v3 : UInt64
deriving DecidableEq, Repr

/-- A rotation to the left, by less than a whole word. -/
def rotate (x : UInt64) (n : UInt64) : UInt64 := (x <<< n) ||| (x >>> (64 - n))

/-- One round. -/
def round (s : State) : State :=
  let a := s.v0 + s.v1
  let b := rotate s.v1 13 ^^^ a
  let a := rotate a 32
  let c := s.v2 + s.v3
  let d := rotate s.v3 16 ^^^ c
  let a := a + d
  let d := rotate d 21 ^^^ a
  let c := c + b
  let b := rotate b 17 ^^^ c
  let c := rotate c 32
  ⟨a, b, c, d⟩

/-- The state for the key zero. -/
def initial : State :=
  ⟨0x736f6d6570736575, 0x646f72616e646f6d, 0x6c7967656e657261, 0x7465646279746573⟩

/-- Takes a word in. -/
def absorb (s : State) (m : UInt64) : State :=
  let t := round { s with v3 := s.v3 ^^^ m }
  { t with v0 := t.v0 ^^^ m }

/-- The number that bytes spell, least significant first. -/
def word (bytes : List UInt8) : UInt64 :=
  bytes.foldr (fun b n => (n <<< 8) ||| b.toUInt64) 0

/-- Takes a message in, where `length` is that of the whole message. -/
def absorbAll (length : UInt64) (s : State) : List UInt8 → State
  | b0 :: b1 :: b2 :: b3 :: b4 :: b5 :: b6 :: b7 :: rest =>
    absorbAll length (absorb s (word [b0, b1, b2, b3, b4, b5, b6, b7])) rest
  | rest => absorb s ((length <<< 56) ||| word rest)

/-- The hash of a message. -/
def hash (message : List UInt8) : UInt64 :=
  let s := absorbAll (UInt64.ofNat message.length) initial message
  let s := round (round (round { s with v2 := s.v2 ^^^ 0xff }))
  s.v0 ^^^ s.v1 ^^^ s.v2 ^^^ s.v3

end TextTemplate.Sip

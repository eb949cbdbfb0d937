import SchemaAccess.Pieces
import SchemaAccess.Text.Hex

namespace SchemaAccess.Sha256

abbrev Word := UInt32

def rotateRight (w amount : Word) : Word := (w >>> amount) ||| (w <<< (32 - amount))

def roundConstants : List Word := [
  0x428a2f98, 0x71374491, 0xb5c0fbcf, 0xe9b5dba5, 0x3956c25b, 0x59f111f1, 0x923f82a4, 0xab1c5ed5,
  0xd807aa98, 0x12835b01, 0x243185be, 0x550c7dc3, 0x72be5d74, 0x80deb1fe, 0x9bdc06a7, 0xc19bf174,
  0xe49b69c1, 0xefbe4786, 0x0fc19dc6, 0x240ca1cc, 0x2de92c6f, 0x4a7484aa, 0x5cb0a9dc, 0x76f988da,
  0x983e5152, 0xa831c66d, 0xb00327c8, 0xbf597fc7, 0xc6e00bf3, 0xd5a79147, 0x06ca6351, 0x14292967,
  0x27b70a85, 0x2e1b2138, 0x4d2c6dfc, 0x53380d13, 0x650a7354, 0x766a0abb, 0x81c2c92e, 0x92722c85,
  0xa2bfe8a1, 0xa81a664b, 0xc24b8b70, 0xc76c51a3, 0xd192e819, 0xd6990624, 0xf40e3585, 0x106aa070,
  0x19a4c116, 0x1e376c08, 0x2748774c, 0x34b0bcb5, 0x391c0cb3, 0x4ed8aa4a, 0x5b9cca4f, 0x682e6ff3,
  0x748f82ee, 0x78a5636f, 0x84c87814, 0x8cc70208, 0x90befffa, 0xa4506ceb, 0xbef9a3f7, 0xc67178f2]

/-- The eight words that are carried from block to block. -/
structure Chain where
  a : Word
  b : Word
  c : Word
  d : Word
  e : Word
  f : Word
  g : Word
  h : Word
deriving Repr, DecidableEq

namespace Chain

def initial : Chain :=
  ⟨0x6a09e667, 0xbb67ae85, 0x3c6ef372, 0xa54ff53a, 0x510e527f, 0x9b05688c, 0x1f83d9ab, 0x5be0cd19⟩

def words (s : Chain) : List Word := [s.a, s.b, s.c, s.d, s.e, s.f, s.g, s.h]

def add (s t : Chain) : Chain :=
  ⟨s.a + t.a, s.b + t.b, s.c + t.c, s.d + t.d, s.e + t.e, s.f + t.f, s.g + t.g, s.h + t.h⟩

/-- One round, with the constant and the word of the schedule that belong to it. -/
def round (s : Chain) (constant scheduled : Word) : Chain :=
  let choice := (s.e &&& s.f) ^^^ (~~~s.e &&& s.g)
  let majority := (s.a &&& s.b) ^^^ (s.a &&& s.c) ^^^ (s.b &&& s.c)
  let low := rotateRight s.e 6 ^^^ rotateRight s.e 11 ^^^ rotateRight s.e 25
  let high := rotateRight s.a 2 ^^^ rotateRight s.a 13 ^^^ rotateRight s.a 22
  let mixed := s.h + low + choice + constant + scheduled
  ⟨mixed + (high + majority), s.a, s.b, s.c, s.d + mixed, s.e, s.f, s.g⟩

end Chain

def nextScheduled (recent : List Word) : Word :=
  let near := recent.getD 1 0
  let far := recent.getD 14 0
  (rotateRight near 17 ^^^ rotateRight near 19 ^^^ (near >>> 10)) + recent.getD 6 0 +
    (rotateRight far 7 ^^^ rotateRight far 18 ^^^ (far >>> 3)) + recent.getD 15 0

def extend : Nat → List Word → List Word
  | 0, recent => recent
  | n + 1, recent => extend n (nextScheduled recent :: recent)

/-- The sixteen words of a block, and forty-eight that follow from them. -/
def schedule (block : List Word) : List Word := (extend 48 block.reverse).reverse

def compress (s : Chain) (block : List Word) : Chain :=
  s.add ((roundConstants.zip (schedule block)).foldl (fun t (constant, scheduled) =>
    t.round constant scheduled) s)

/-- The number of zeros that fill up the last block, behind the mark and before the length. -/
def fill (length : Nat) : Nat := (119 - length % 64) % 64

def lengthBytes (n : Nat) : List UInt8 :=
  (List.range 8).map fun i => (n / Nat.pow 256 (7 - i)).toUInt8

def padded (bytes : List UInt8) : List UInt8 :=
  bytes ++ 0x80 :: List.replicate (fill bytes.length) 0 ++ lengthBytes (8 * bytes.length)

def wordOf (bytes : List UInt8) : Word := bytes.foldl (fun w b => w <<< 8 ||| b.toUInt32) 0

def blocks (bytes : List UInt8) : List (List Word) := pieces 16 ((pieces 4 (padded bytes)).map wordOf)

def hash (bytes : List UInt8) : Chain := (blocks bytes).foldl compress .initial

def hex (text : String) : String :=
  String.join ((hash text.toUTF8.toList).words.map fun w => Text.hexLower 8 w.toNat)

theorem length_hex (text : String) : (hex text).toList.length = 64 := by
  have hdigits : ∀ w : Word, (Nat.toDigits 16 w.toNat).length ≤ 8 :=
    fun w => (Nat.length_toDigits_le_iff (by decide) (by decide)).2 w.toNat_lt
  have hword : ∀ w : Word, (Text.hexLower 8 w.toNat).toList.length = 8 := fun w => Text.length_hexLower (hdigits w)
  simp [hex, Chain.words, hword]

end SchemaAccess.Sha256

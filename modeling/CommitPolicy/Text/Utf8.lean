/-!
# UTF-8

`decode?` reads bytes strictly, `decodeLossy` writes a replacement character for every longest piece
of bytes that could have started a character and did not become one.
-/

namespace CommitPolicy.Text

/-- The number of continuation bytes after a first byte, the bits of the character that the first
byte holds, and the range in which the second byte has to lie. -/
def leadByte? (b : Nat) : Option (Nat × Nat × Nat × Nat) :=
  if b < 0x80 then some (0, b, 0, 0)
  else if b < 0xC2 then none
  else if b < 0xE0 then some (1, b - 0xC0, 0x80, 0xBF)
  else if b < 0xF0 then
    some (2, b - 0xE0, if b = 0xE0 then 0xA0 else 0x80, if b = 0xED then 0x9F else 0xBF)
  else if b < 0xF5 then
    some (3, b - 0xF0, if b = 0xF0 then 0x90 else 0x80, if b = 0xF4 then 0x8F else 0xBF)
  else none

/-- The number of leading bytes, at most `count`, that continue a character; the first of them has
to lie between `lo` and `hi`. -/
def continuing (lo hi : Nat) : Nat → List UInt8 → Nat
  | 0, _ => 0
  | _, [] => 0
  | count + 1, b :: rest =>
    if lo ≤ b.toNat && b.toNat ≤ hi then continuing 0x80 0xBF count rest + 1 else 0

/-- The first character of non-empty bytes, if they start with one, and the number of bytes after
the first one that belong to it or to the piece that failed to become one. -/
def firstChar (b : UInt8) (rest : List UInt8) : Option Char × Nat :=
  match leadByte? b.toNat with
  | none => (none, 0)
  | some (count, bits, lo, hi) =>
    let n := continuing lo hi count rest
    if n = count then
      (some (Char.ofNat ((rest.take n).foldl (fun acc c => acc * 64 + (c.toNat - 0x80)) bits)), n)
    else (none, n)

/-- Reads bytes with `skip` bytes at the start left out, as the characters and the pieces that are
none. -/
def decodeFrom : Nat → List UInt8 → List (Option Char)
  | _, [] => []
  | skip + 1, _ :: rest => decodeFrom skip rest
  | 0, b :: rest => (firstChar b rest).1 :: decodeFrom (firstChar b rest).2 rest

/-- The text of bytes that are well formed. -/
def decode? (bytes : List UInt8) : Option String :=
  ((decodeFrom 0 bytes).mapM id).map String.ofList

/-- The text of any bytes; a replacement character stands for each malformed piece. -/
def decodeLossy (bytes : List UInt8) : String :=
  String.ofList ((decodeFrom 0 bytes).map (·.getD (Char.ofNat 0xFFFD)))

/-- The bytes of a text. -/
def encode (s : String) : List UInt8 := s.toUTF8.toList

end CommitPolicy.Text

import CommitPolicy.Text.Word

/-!
# Base 64

Four characters hold three bytes.  Characters outside the alphabet do not count; padding ends the
text where it completes a group of four.
-/

namespace CommitPolicy.Text

/-- The six bits that a character stands for. -/
def base64Value? (c : Char) : Option Nat :=
  if 'A' ≤ c && c ≤ 'Z' then some (c.toNat - 65)
  else if 'a' ≤ c && c ≤ 'z' then some (c.toNat - 71)
  else if isAsciiDigit c then some (c.toNat + 4)
  else if c = '+' then some 62
  else if c = '/' then some 63
  else none

/-- Reads bytes: `place` is the place in the group of four, `left` holds the bits left over from the
character before, `pads` is the number of padding characters since then, and `count` is the number
of bytes so far. -/
def decodeBase64From (place left pads count : Nat) : List Char → Except String (List UInt8)
  | [] =>
    if place = 0 then .ok []
    else if place = 1 then
      .error ("Invalid base64-encoded string: number of data characters ("
        ++ toString (count / 3 * 4 + 1) ++ ") cannot be 1 more than a multiple of 4")
    else .error "Incorrect padding"
  | c :: rest =>
    if c = '=' then
      if 2 ≤ place && 4 ≤ place + pads + 1 then .ok []
      else decodeBase64From place left (if 2 ≤ place then pads + 1 else pads) count rest
    else
      match base64Value? c with
      | none => decodeBase64From place left pads count rest
      | some v =>
        match place with
        | 0 => decodeBase64From 1 v 0 count rest
        | 1 => (decodeBase64From 2 (v % 16) 0 (count + 1) rest).map (.ofNat (left * 4 + v / 16) :: ·)
        | 2 => (decodeBase64From 3 (v % 4) 0 (count + 1) rest).map (.ofNat (left * 16 + v / 4) :: ·)
        | _ => (decodeBase64From 0 0 0 (count + 1) rest).map (.ofNat (left * 64 + v) :: ·)

/-- The bytes of a text in base 64, or what is wrong with it. -/
def decodeBase64 (s : List Char) : Except String (List UInt8) := decodeBase64From 0 0 0 0 s

end CommitPolicy.Text

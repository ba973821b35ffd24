import CommitPolicy.Text.CodePoints
import CommitPolicy.Text.Integer
import CommitPolicy.Text.Lines
import CommitPolicy.Text.NameTable

/-!
# Characters by name

`namedCharacter?` finds the character that has a name.  The syllables of Hangul are named by the
sounds that they consist of, and ideographs by their numbers; these names have to be in capitals.
All other names stand in a table, and may be in small letters.
-/

namespace CommitPolicy.Text

/-- The rest of a name that has the given start. -/
def afterStart? (start : String) (name : List Char) : Option (List Char) :=
  if start.toList.isPrefixOf name then some (name.drop start.length) else none

/-- The sounds that a syllable of Hangul can start with. -/
def leadingSounds : List String :=
  ["G", "GG", "N", "D", "DD", "R", "M", "B", "BB", "S", "SS", "", "J", "JJ", "C", "K", "T", "P",
    "H"]

/-- The vowels of the syllables of Hangul. -/
def vowelSounds : List String :=
  ["A", "AE", "YA", "YAE", "EO", "E", "YEO", "YE", "O", "WA", "WAE", "OE", "YO", "U", "WEO", "WE",
    "WI", "YU", "EU", "YI", "I"]

/-- The sounds that a syllable of Hangul can end in. -/
def trailingSounds : List String :=
  ["", "G", "GG", "GS", "N", "NJ", "NH", "D", "L", "LG", "LM", "LB", "LS", "LT", "LP", "LH", "M",
    "B", "BS", "S", "SS", "NG", "J", "C", "K", "T", "P", "H"]

/-- The syllable of Hangul that consists of the given sounds. -/
def syllable? (sounds : String) : Option Nat :=
  leadingSounds.zipIdx.findSome? fun (lead, i) =>
    vowelSounds.zipIdx.findSome? fun (vowel, j) =>
      trailingSounds.zipIdx.findSome? fun (trail, k) =>
        if sounds = lead ++ vowel ++ trail then
          some (0xAC00 + (i * vowelSounds.length + j) * trailingSounds.length + k)
        else none

/-- The numbers of the ideographs that have no other name. -/
def ideographRanges : List (Nat × Nat) :=
  [(0x3400, 0x4DBF), (0x4E00, 0x9FFF), (0x20000, 0x2A6DF), (0x2A700, 0x2B738), (0x2B740, 0x2B81D),
    (0x2B820, 0x2CEA1), (0x2CEB0, 0x2EBE0), (0x30000, 0x3134A)]

/-- The ideograph with the number that four or five digits stand for. -/
def ideograph? (digits : List Char) : Option Nat :=
  if (digits.length = 4 || digits.length = 5)
      && digits.all (fun c => isHexDigit c && !c.isLower)
      && inRanges ideographRanges (hexValue digits) then
    some (hexValue digits)
  else none

/-- Names that end in the number of the character. -/
def numberedNames : List (String × List (Nat × Nat)) :=
  [("CJK COMPATIBILITY IDEOGRAPH-", [(0xF900, 0xFA6D), (0xFA70, 0xFAD9), (0x2F800, 0x2FA1D)]),
    ("KHITAN SMALL SCRIPT CHARACTER-", [(0x18B00, 0x18CD5)]),
    ("NUSHU CHARACTER-", [(0x1B170, 0x1B2FB)])]

/-- The character whose name ends in its number. -/
def numbered? (name : List Char) : Option Nat :=
  numberedNames.findSome? fun (start, ranges) => do
    let digits ← afterStart? start name
    if digits.all isHexDigit && digits.head? != some '0' && inRanges ranges (hexValue digits) then
      some (hexValue digits)
    else none

/-- The character whose name consists of the given words, looked for in the entries of a table: `n`
is the number of the next character, and `last` are the words of the name before. -/
def findName (words : List (List Char)) (n : Nat) (last : List (List Char)) :
    List (List Char) → Option Nat
  | [] => none
  | [] :: rest => findName words n last rest
  | (first :: text) :: rest =>
    if first = '@' then findName words (hexValue text) last rest
    else
      let name := last.take (hexValue [first]) ++ splitAt ' ' text
      if name = words then some n else findName words (n + 1) name rest

/-- The character that has a name in the table. -/
def tabled? (name : List Char) : Option Nat :=
  findName (splitAt ' ' name) 0 [] (nameTable.flatMap fun line => splitAt ',' line.toList)

/-- The number of the character that has a name. -/
def namedCharacter? (name : List Char) : Option Nat :=
  match afterStart? "HANGUL SYLLABLE " name, afterStart? "CJK UNIFIED IDEOGRAPH-" name with
  | some sounds, _ => syllable? (String.ofList sounds)
  | none, some digits => ideograph? digits
  | none, none =>
    let name := name.map Char.toUpper
    ((otherNames.lookup (String.ofList name)).or (numbered? name)).or (tabled? name)

end CommitPolicy.Text

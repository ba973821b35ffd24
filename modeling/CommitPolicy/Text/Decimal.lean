import CommitPolicy.Text.Integer

/-!
# Floating-point numbers in text

`readFloat?` reads a number in decimal notation: white space at the ends, a sign, digits with an
optional point among them, and an exponent; or the name of infinity or of no number.
-/

namespace CommitPolicy.Text

/-- The digits at the start of a text as numbers, single underscores between them left out, and the
rest. -/
def takeDigits : List Char → List Nat × List Char
  | [] => ([], [])
  | c :: rest =>
    match digitValue? c with
    | none => ([], c :: rest)
    | some d =>
      let (ds, after) := takeDigits (match rest with
        | '_' :: d :: more => if (digitValue? d).isSome then d :: more else rest
        | rest => rest)
      (d :: ds, after)
termination_by s => s.length
decreasing_by
  simp only [List.length_cons]
  split
  · split <;> simp
  · omega

/-- The floating-point value nearest to `m` times a power of ten. -/
def scaled (m : Nat) (e : Int) : Float :=
  let size := e + (toString m).length
  if m = 0 then 0
  else if 400 < size then 1 / 0
  else if size < -400 then 0
  else Float.ofScientific m (e < 0) e.natAbs

/-- The value of an exponent, `s` being what follows the digits. -/
def readExponent? : List Char → Option Int
  | [] => some 0
  | c :: rest =>
    if c = 'e' || c = 'E' then
      let (negative, rest) := match rest with
        | '-' :: rest => (true, rest)
        | '+' :: rest => (false, rest)
        | rest => (false, rest)
      match takeDigits rest with
      | ([], _) => none
      | (ds, []) =>
        let n : Int := (ds.foldl (fun n d => n * 10 + d) 0 : Nat)
        some (if negative then -n else n)
      | _ => none
    else none

/-- Reads a number without a sign. -/
def readUnsignedFloat? (s : List Char) : Option Float :=
  let name := s.map Char.toLower
  if name = "inf".toList || name = "infinity".toList then some (1 / 0)
  else if name = "nan".toList then some (0 / 0)
  else do
    let (whole, rest) := takeDigits s
    let (fraction, rest) := match rest with
      | '.' :: rest => takeDigits rest
      | rest => ([], rest)
    if whole.isEmpty && fraction.isEmpty then none
    else
      let e ← readExponent? rest
      some (scaled ((whole ++ fraction).foldl (fun n d => n * 10 + d) 0) (e - fraction.length))

/-- Reads a number. -/
def readFloat? (s : String) : Option Float :=
  match trim s.toList with
  | '-' :: rest => (readUnsignedFloat? rest).map fun x => -x
  | '+' :: rest => readUnsignedFloat? rest
  | rest => readUnsignedFloat? rest

end CommitPolicy.Text

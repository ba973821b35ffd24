import CommitPolicy.Pattern.Node
import CommitPolicy.Text.CharacterName
import CommitPolicy.Text.Identifier
import CommitPolicy.Text.Integer

/-!
# Reading a pattern

A pattern is read from left to right as a list of tokens: a backslash and the character after it are
one token, any other character is a token by itself.  The reader keeps the position of the next
token, the groups seen so far and the modes set for the whole pattern.  A backslash at the very end
is refused as soon as the reader comes to it.

`readAlternatives` reads alternatives up to a closing parenthesis or the end, `readSequence` one of
them.  Each call handles at least one token, or is called where one was handled, so a bound of a few
calls for each token is never reached.
-/

namespace CommitPolicy.Pattern

open Text

/-- The modes in force at a place of a pattern. -/
structure Modes where
  ignoreCase : Bool := false
  multiline : Bool := false
  dotAll : Bool := false
  verbose : Bool := false
  ascii : Bool := false
  unicode : Bool := false
  template : Bool := false
  deriving DecidableEq, Repr

namespace Modes

/-- The rule for case under the modes. -/
def caseRule (m : Modes) : CaseRule :=
  if m.ignoreCase then (if m.ascii then .ascii else .folded) else .exact

/-- The modes with those of `on` added; a character set of `on` replaces the one before. -/
def add (m on : Modes) : Modes where
  ignoreCase := m.ignoreCase || on.ignoreCase
  multiline := m.multiline || on.multiline
  dotAll := m.dotAll || on.dotAll
  verbose := m.verbose || on.verbose
  ascii := if on.ascii || on.unicode then on.ascii else m.ascii
  unicode := if on.ascii || on.unicode then on.unicode else m.unicode
  template := m.template || on.template

/-- The modes without those of `off`. -/
def remove (m off : Modes) : Modes where
  ignoreCase := m.ignoreCase && !off.ignoreCase
  multiline := m.multiline && !off.multiline
  dotAll := m.dotAll && !off.dotAll
  verbose := m.verbose && !off.verbose
  ascii := m.ascii
  unicode := m.unicode
  template := m.template

/-- All modes of both. -/
def union (m on : Modes) : Modes where
  ignoreCase := m.ignoreCase || on.ignoreCase
  multiline := m.multiline || on.multiline
  dotAll := m.dotAll || on.dotAll
  verbose := m.verbose || on.verbose
  ascii := m.ascii || on.ascii
  unicode := m.unicode || on.unicode
  template := m.template || on.template

/-- Whether some mode is in both. -/
def meets (m n : Modes) : Bool :=
  (m.ignoreCase && n.ignoreCase) || (m.multiline && n.multiline) || (m.dotAll && n.dotAll)
    || (m.verbose && n.verbose)

/-- The mode of a flag letter. -/
def ofLetter? : Char → Option Modes
  | 'i' => some { ignoreCase := true }
  | 'm' => some { multiline := true }
  | 's' => some { dotAll := true }
  | 'x' => some { verbose := true }
  | 'a' => some { ascii := true }
  | 'u' => some { unicode := true }
  | 't' => some { template := true }
  | _ => none

/-- Whether the letter sets or changes a mode; `L` is known and always refused. -/
def isLetter (c : Char) : Bool := c == 'L' || (ofLetter? c).isSome

end Modes

/-- A character, or a backslash and the character after it. -/
inductive Token where
  | plain (c : Char)
  | escape (c : Char)
  deriving DecidableEq, Repr

namespace Token

/-- The characters of a token. -/
def chars : Token → List Char
  | plain c => [c]
  | escape c => ['\\', c]

/-- The characters of a token as text. -/
def text (t : Token) : String := String.ofList t.chars

/-- The tokens of a pattern, and whether a backslash is left over at its end. -/
def split : List Char → List Token × Bool
  | [] => ([], false)
  | ['\\'] => ([], true)
  | '\\' :: c :: rest => let (ts, d) := split rest; (escape c :: ts, d)
  | c :: rest => let (ts, d) := split rest; (plain c :: ts, d)

end Token

/-- The state of the reader. -/
structure Reader where
  tokens : List Token
  position : Nat
  /-- A backslash follows the last token. -/
  dangling : Bool
  /-- The modes set for the whole pattern. -/
  global : Modes
  /-- The widths of the groups that were opened, in order; none while a group is open. -/
  widths : List (Option Width)
  /-- The numbers of the named groups. -/
  names : List (String × Nat)
  /-- Inside a look-behind, the number of groups opened before it, the whole pattern counted. -/
  lookBehind : Option Nat
  /-- The group numbers that conditions refer to, and where, the latest first. -/
  conditions : List (Nat × Nat)

/-- A step of the reader. -/
abbrev ReadM := StateT Reader (Except Refusal)

namespace ReadM

/-- Refuses the pattern for a fault so many characters before the next token. -/
def fail {α : Type} (f : Fault) (back : Nat) : ReadM α := fun r =>
  .error (.fault f (some (r.position - back)))

/-- The next token. -/
def peek : ReadM (Option Token) := fun r => .ok (r.tokens.head?, r)

/-- The position of the next token. -/
def position : ReadM Nat := fun r => .ok (r.position, r)

/-- Refuses a pattern whose last backslash has been reached. -/
def settle (r : Reader) : Except Refusal Reader :=
  if r.tokens.isEmpty && r.dangling then .error (.fault .danglingEscape (some r.position)) else .ok r

/-- Takes the next token. -/
def next : ReadM (Option Token) := fun r =>
  match r.tokens with
  | [] => .ok (none, r)
  | t :: ts => do
    let r ← settle { r with tokens := ts, position := r.position + t.chars.length }
    .ok (some t, r)

/-- Takes the next token if it is the character `c`. -/
def accept (c : Char) : ReadM Bool := do
  if (← peek) == some (.plain c) then
    let _ ← next
    pure true
  else pure false

/-- Takes at most `n` plain characters that pass a test. -/
def takeSome (test : Char → Bool) : Nat → ReadM (List Char)
  | 0 => pure []
  | n + 1 => do
    match ← peek with
    | some (.plain c) =>
      if test c then
        let _ ← next
        pure (c :: (← takeSome test n))
      else pure []
    | _ => pure []

/-- Takes all plain characters that pass a test. -/
def takeAll (test : Char → Bool) : ReadM (List Char) := do
  takeSome test (← get).tokens.length

/-- Takes the characters up to `stop`, which is taken too; `text` holds those already taken. -/
def takeUntil (stop : Char) (what : String) : Nat → List Char → ReadM (List Char)
  | 0, text => pure text
  | n + 1, text => do
    match ← next with
    | none =>
      if text.isEmpty then fail (.missingName what) 0
      else fail (.unterminatedName (String.singleton stop)) text.length
    | some (.plain c) =>
      if c = stop then
        if text.isEmpty then fail (.missingName what) 1 else pure text
      else takeUntil stop what n (text ++ [c])
    | some t => takeUntil stop what n (text ++ t.chars)

/-- Takes a name up to `stop`. -/
def name (stop : Char) (what : String) : ReadM (List Char) := do
  takeUntil stop what ((← get).tokens.length + 1) []

end ReadM

open ReadM

/-- A test for the code point `n` under the modes. -/
def Modes.literal (m : Modes) (n : Nat) : CharTest := ⟨false, [.one n], m.caseRule, m.ascii⟩

/-- A test for a class under the modes. -/
def Modes.classTest (m : Modes) (negated : Bool) (items : List ClassItem) : CharTest :=
  ⟨negated, items, m.caseRule, m.ascii⟩

/-- The letters of the categories; a capital negates. -/
def categoryOf? : Char → Option ClassItem
  | 'd' => some (.category false .digit)
  | 'D' => some (.category true .digit)
  | 's' => some (.category false .space)
  | 'S' => some (.category true .space)
  | 'w' => some (.category false .word)
  | 'W' => some (.category true .word)
  | _ => none

/-- The characters that a letter stands for after a backslash. -/
def controlOf? : Char → Option Nat
  | 'a' => some 7
  | 'b' => some 8
  | 'f' => some 12
  | 'n' => some 10
  | 'r' => some 13
  | 't' => some 9
  | 'v' => some 11
  | '\\' => some 92
  | _ => none

/-- The places that a letter stands for after a backslash. -/
def anchorOf? (m : Modes) : Char → Option Anchor
  | 'A' => some .textStart
  | 'Z' => some .textEnd
  | 'b' => some (.wordBoundary false m.ascii)
  | 'B' => some (.wordBoundary true m.ascii)
  | _ => none

/-- Reads the rest of an escape of exactly `n` hexadecimal digits after the letter `c`.  A number
that is no code point is a fault, but one of more than 31 bits is refused outright. -/
def readHex (c : Char) (n : Nat) : ReadM Nat := do
  let ds ← takeSome isHexDigit n
  let escape := '\\' :: c :: ds
  if ds.length < n then fail (.incompleteEscape (String.ofList escape)) escape.length
  else if 0x7FFFFFFF < hexValue ds then throw .codePointTooLarge
  else if 0x10FFFF < hexValue ds then fail (.badEscape (String.ofList escape)) escape.length
  else pure (hexValue ds)

/-- Reads the rest of an escape by name. -/
def readNamed : ReadM Nat := do
  if ← accept '\x7b' then
    let text ← name '\x7d' "character name"
    match namedCharacter? text with
    | some n => pure n
    | none => fail (.unknownCharacterName (String.ofList text)) (text.length + 4)
  else fail .missingBrace 0

/-- Reads the rest of an escape in a class. -/
def readClassEscape (c : Char) : ReadM ClassItem := do
  match controlOf? c, categoryOf? c with
  | some n, _ => pure (.one n)
  | none, some item => pure item
  | none, none =>
    if c = 'x' then .one <$> readHex c 2
    else if c = 'u' then .one <$> readHex c 4
    else if c = 'U' then .one <$> readHex c 8
    else if c = 'N' then .one <$> readNamed
    else if isOctalDigit c then
      let ds := c :: (← takeSome isOctalDigit 2)
      if 0o377 < baseValue 8 ds then
        fail (.octalTooLarge (String.ofList ('\\' :: ds))) (ds.length + 1)
      else pure (.one (baseValue 8 ds))
    else if isAsciiDigit c || isAsciiLetter c then fail (.badEscape (String.ofList ['\\', c])) 2
    else pure (.one c.toNat)

/-- Checks that a group may be referred to from inside a look-behind. -/
def checkLookBehind (index : Nat) : ReadM Unit := do
  let r ← get
  match r.lookBehind with
  | none => pure ()
  | some groups =>
    match r.widths[index - 1]? with
    | some (some _) => if groups ≤ index then fail .sameLookBehind 0 else pure ()
    | _ => fail .openGroup 0

/-- A reference to a group, given the length of its text and of the part before the number. -/
def readReference (m : Modes) (index back unknownBack : Nat) : ReadM Node := do
  match (← get).widths[index - 1]? with
  | none => fail (.unknownGroupNumber index) unknownBack
  | some none => fail .openGroup back
  | some (some w) =>
    checkLookBehind index
    pure (.backref index m.caseRule w)

/-- Reads the rest of an escape that starts with a digit other than zero: three octal digits name a
character, anything else a group. -/
def readNumbered (m : Modes) (c : Char) : ReadM Node := do
  let literal (n : Nat) : Node := .char (m.literal n)
  let group (ds : List Char) : ReadM Node :=
    readReference m (decimalValue ds) (ds.length + 1) ds.length
  match ← takeSome isAsciiDigit 1 with
  | [d] =>
    if isOctalDigit c && isOctalDigit d then
      match ← takeSome isOctalDigit 1 with
      | [e] =>
        let ds := [c, d, e]
        if 0o377 < baseValue 8 ds then fail (.octalTooLarge (String.ofList ('\\' :: ds))) 4
        else pure (literal (baseValue 8 ds))
      | _ => group [c, d]
    else group [c, d]
  | _ => group [c]

/-- Reads the rest of an escape outside a class. -/
def readEscape (m : Modes) (c : Char) : ReadM (Bool × Node) := do
  let literal (n : Nat) : Node := .char (m.literal n)
  match categoryOf? c, anchorOf? m c, controlOf? c with
  | some item, _, _ => pure (false, .char (m.classTest false [item]))
  | none, some a, _ => pure (true, .anchor a)
  | none, none, some n => pure (false, literal n)
  | none, none, none =>
    if c = 'x' then pure (false, literal (← readHex c 2))
    else if c = 'u' then pure (false, literal (← readHex c 4))
    else if c = 'U' then pure (false, literal (← readHex c 8))
    else if c = 'N' then pure (false, literal (← readNamed))
    else if c = '0' then
      pure (false, literal (baseValue 8 (← takeSome isOctalDigit 2)))
    else if isAsciiDigit c then pure (false, ← readNumbered m c)
    else if isAsciiLetter c then fail (.badEscape (String.ofList ['\\', c])) 2
    else pure (false, literal c.toNat)

/-- Reads one member of a class from its first token. -/
def readMember : Token → ReadM ClassItem
  | .plain c => pure (.one c.toNat)
  | .escape c => readClassEscape c

/-- Reads the members of a class up to the closing bracket; `start` is the position of the opening
one. -/
def readMembers (start : Nat) : Nat → List ClassItem → ReadM (List ClassItem)
  | 0, items => pure items
  | fuel + 1, items => do
    let unterminated {α : Type} : ReadM α := do fail .unterminatedSet ((← position) - start)
    match ← next with
    | none => unterminated
    | some t =>
      if t == .plain ']' && !items.isEmpty then pure items
      else
        let first ← readMember t
        if ← accept '-' then
          match ← next with
          | none => unterminated
          | some (.plain ']') => pure (items ++ [first, .one 45])
          | some u =>
            let last ← readMember u
            let bad {α : Type} : ReadM α :=
              fail (.badRange t.text u.text) (t.chars.length + 1 + u.chars.length)
            match first, last with
            | .one lo, .one hi =>
              if hi < lo then bad else readMembers start fuel (items ++ [.range lo hi])
            | _, _ => bad
        else readMembers start fuel (items ++ [first])

/-- Reads a class after its opening bracket. -/
def readClass (m : Modes) : ReadM Node := do
  let start := (← position) - 1
  let negated ← accept '^'
  let items ← readMembers start ((← get).tokens.length + 1) []
  pure (.char (m.classTest negated items))

/-- Skips a comment up to its closing parenthesis. -/
def skipComment (start : Nat) : Nat → ReadM Unit
  | 0 => pure ()
  | fuel + 1 => do
    match ← peek with
    | none => fail .unterminatedComment ((← position) - start)
    | some t =>
      let _ ← next
      if t == .plain ')' then pure () else skipComment start fuel

/-- Skips the rest of a line. -/
def skipLine : Nat → ReadM Unit
  | 0 => pure ()
  | fuel + 1 => do
    match ← next with
    | none => pure ()
    | some t => if t == .plain '\n' then pure () else skipLine fuel

/-- A bound of a repetition: refused when it has too many digits or is too large. -/
def readBound (ds : List Char) : ReadM Nat := do
  if maxDigits < ds.length then throw (.tooManyDigits ds.length)
  else if 0xFFFFFFFF ≤ decimalValue ds then throw .repetitionTooLarge
  else pure (decimalValue ds)

/-- Reads the bounds of a repetition after the opening brace, which stands for itself when no bounds
follow: then nothing is taken. -/
def readBounds? : ReadM (Option (Nat × Option Nat)) := do
  let saved ← get
  if (← peek) == some (.plain '\x7d') then pure none
  else
    let lo ← takeAll isAsciiDigit
    let hi ← if ← accept ',' then takeAll isAsciiDigit else pure lo
    if ← accept '\x7d' then
      let min ← if lo.isEmpty then pure 0 else readBound lo
      let max ← if hi.isEmpty then pure none else some <$> readBound hi
      match max with
      | some m => if m < min then fail .minAboveMax ((← position) - saved.position)
      | none => pure ()
      pure (some (min, max))
    else
      set saved
      pure none

/-- Reads what follows the bounds of a repetition and says how greedy it is. -/
def readGreed : ReadM Greed := do
  if ← accept '?' then pure .lazy
  else if ← accept '+' then pure .possessive
  else pure .greedy

/-- The letter of a token, if it is a flag letter. -/
def flagLetter? : Token → Option Char
  | .plain c => if Modes.isLetter c then some c else none
  | .escape _ => none

/-- The fault of a token where a flag letter was expected. -/
def flagFault (otherwise : Fault) : Token → Fault
  | .plain c => if Text.isLetter c then .unknownFlag else otherwise
  | .escape _ => otherwise

/-- Reads flag letters that are turned on, the first one being `c`, and gives the token that ends
them. -/
def readFlagsOn : Nat → Char → Modes → ReadM (Modes × Char)
  | 0, c, on => pure (on, c)
  | fuel + 1, c, on => do
    match Modes.ofLetter? c with
    | none => fail .localeFlag 0
    | some flag =>
      let on := on.union flag
      if (flag.ascii && on.unicode) || (flag.unicode && on.ascii) then fail .clashingFlags 0
      else
        match ← next with
        | none => fail .missingFlagEnd 0
        | some (.plain ')') => pure (on, ')')
        | some (.plain '-') => pure (on, '-')
        | some (.plain ':') => pure (on, ':')
        | some t =>
          match flagLetter? t with
          | some d => readFlagsOn fuel d on
          | none => fail (flagFault .missingFlagEnd t) t.chars.length

/-- Reads flag letters that are turned off, the first one being `c`, up to the colon. -/
def readFlagsOff : Nat → Char → Modes → ReadM Modes
  | 0, _, off => pure off
  | fuel + 1, c, off => do
    match Modes.ofLetter? c with
    | none => fail .classFlagOff 0
    | some flag =>
      if flag.ascii || flag.unicode then fail .classFlagOff 0
      else
        let off := off.union flag
        match ← next with
        | none => fail .missingColon 0
        | some (.plain ':') => pure off
        | some t =>
          match flagLetter? t with
          | some d => readFlagsOff fuel d off
          | none => fail (flagFault .missingColon t) t.chars.length

/-- Reads flags, the first character being `c`: flags for the whole pattern give nothing, others the
modes to turn on and off for a group. -/
def readFlags (c : Char) : ReadM (Option (Modes × Modes)) := do
  let fuel := (← get).tokens.length + 1
  let (on, stop) ← if c = '-' then pure (({} : Modes), '-') else readFlagsOn fuel c {}
  if stop = ')' then
    modify fun r => { r with global := r.global.union on }
    pure none
  else if on.template then fail .globalFlagOn 1
  else if stop = '-' then
    match ← next with
    | none => fail .missingFlag 0
    | some t =>
      match flagLetter? t with
      | none => fail (flagFault .missingFlag t) t.chars.length
      | some d =>
        let off ← readFlagsOff fuel d {}
        if off.template then fail .globalFlagOff 1
        else if on.meets off then fail .flagOnAndOff 1
        else pure (some (on, off))
  else pure (some (on, {}))

/-- Opens a group and gives its number. -/
def openGroup (groupName : Option (List Char)) : ReadM Nat := do
  let r ← get
  let index := r.widths.length + 1
  match groupName with
  | none =>
    set { r with widths := r.widths ++ [none] }
    pure index
  | some chars =>
    let text := String.ofList chars
    match r.names.lookup text with
    | some before => fail (.redefinedGroup text index before) (chars.length + 1)
    | none =>
      set { r with widths := r.widths ++ [none], names := (text, index) :: r.names }
      pure index

/-- Closes a group that matched a tree. -/
def closeGroup (index : Nat) (a : Node) : ReadM Unit :=
  modify fun r => { r with widths := r.widths.set (index - 1) (some a.width) }

/-- The largest group number that a condition may name. -/
def maxGroups : Nat := 1073741823

/-- Reads the group of a condition, up to the closing parenthesis. -/
def readCondition : ReadM Nat := do
  let chars ← name ')' "group name"
  let text := String.ofList chars
  let back := chars.length + 1
  let index ←
    if isIdentifier chars then
      match (← get).names.lookup text with
      | some index => pure index
      | none => fail (.unknownGroupName text) back
    else
      match if maxDigits < chars.length then none else readInteger? text with
      | none => fail (.badGroupName text) back
      | some n =>
        if n < 0 then fail (.badGroupName text) back
        else if n = 0 then fail .zeroGroup back
        else if maxGroups ≤ n.toNat then fail (.unknownGroupNumber n.toNat) back
        else
          let at_ := (← position) - back
          modify fun r =>
            if (r.conditions.lookup n.toNat).isSome then r
            else { r with conditions := (n.toNat, at_) :: r.conditions }
          pure n.toNat
  checkLookBehind index
  pure index

/-- Reads a back-reference by name, up to the closing parenthesis. -/
def readNamedReference (m : Modes) : ReadM Node := do
  let chars ← name ')' "group name"
  let text := String.ofList chars
  let back := chars.length + 1
  if !isIdentifier chars then fail (.badGroupName text) back
  else
    match (← get).names.lookup text with
    | none => fail (.unknownGroupName text) back
    | some index => readReference m index back back

/-- What a repetition sign finds before it. -/
inductive Before where
  | nothing
  | anchor
  | repetition
  | other
  deriving DecidableEq

/-- The trees read so far in a sequence, the latest first, and what the latest is. -/
structure Sequence where
  nodes : List Node := []
  latest : Before := .nothing

namespace Sequence

/-- Adds a tree. -/
def push (s : Sequence) (a : Node) (kind : Before := .other) : Sequence := ⟨a :: s.nodes, kind⟩

/-- The tree of the sequence. -/
def node (s : Sequence) : Node := Node.concat s.nodes.reverse

end Sequence

/-- Repeats the latest tree; `start` is the position of the repetition sign. -/
def repeatLatest (s : Sequence) (start min : Nat) (max : Option Nat) : ReadM Sequence := do
  let back := (← position) - start
  match s.latest, s.nodes with
  | .repetition, _ => fail .multipleRepeat back
  | .other, a :: rest =>
    let greed ← readGreed
    pure ⟨.rep greed min max a :: rest, .repetition⟩
  | _, _ => fail .nothingToRepeat back

/-- Reads the closing parenthesis of a group that opened at `start`. -/
def readClose (start : Nat) : ReadM Unit := do
  if ← accept ')' then pure () else fail .unterminatedGroup ((← position) - start)

mutual

/-- Reads alternatives up to a closing parenthesis or the end.  Outside all groups the modes of the
whole pattern apply, as far as they are set. -/
def readAlternatives (outermost : Bool) : Nat → Modes → ReadM Node
  | 0, _ => throw (.fault .nestedTooDeep none)
  | fuel + 1, m => do
    let first ← readSequence outermost fuel m {}
    let rest ← readMoreAlternatives outermost fuel m
    pure (Node.choice (first :: rest))

/-- Reads the alternatives after the first one. -/
def readMoreAlternatives (outermost : Bool) : Nat → Modes → ReadM (List Node)
  | 0, _ => throw (.fault .nestedTooDeep none)
  | fuel + 1, m => do
    if ← accept '|' then
      let r ← get
      let m := if outermost then r.global else m
      let a ← readSequence false fuel m {}
      pure (a :: (← readMoreAlternatives outermost fuel m))
    else pure []

/-- Reads a sequence up to a bar, a closing parenthesis or the end.  Flags for the whole pattern are
allowed where `leading` holds and nothing precedes them. -/
def readSequence (leading : Bool) : Nat → Modes → Sequence → ReadM Node
  | 0, _, _ => throw (.fault .nestedTooDeep none)
  | fuel + 1, m, s => do
    let start ← position
    match ← peek with
    | none => pure s.node
    | some (.plain '|') => pure s.node
    | some (.plain ')') => pure s.node
    | some t =>
      let _ ← next
      match t with
      | .escape c =>
        let (isAnchor, a) ← readEscape m c
        readSequence leading fuel m (s.push a (if isAnchor then .anchor else .other))
      | .plain c =>
        if m.verbose && (c == ' ' || ('\t' ≤ c && c ≤ '\r')) then readSequence leading fuel m s
        else if m.verbose && c == '#' then
          skipLine ((← get).tokens.length + 1)
          readSequence leading fuel m s
        else
          match c with
          | '[' => do readSequence leading fuel m (s.push (← readClass m))
          | '?' => do readSequence leading fuel m (← repeatLatest s start 0 (some 1))
          | '*' => do readSequence leading fuel m (← repeatLatest s start 0 none)
          | '+' => do readSequence leading fuel m (← repeatLatest s start 1 none)
          | '\x7b' =>
            match ← readBounds? with
            | none => readSequence leading fuel m (s.push (.char (m.literal 0x7B)))
            | some (min, max) => do readSequence leading fuel m (← repeatLatest s start min max)
          | '.' =>
            readSequence leading fuel m
              (s.push (.char (m.classTest true (if m.dotAll then [] else [.one 10]))))
          | '^' =>
            let a : Anchor := if m.multiline then .lineStart else .textStart
            readSequence leading fuel m (s.push (.anchor a) .anchor)
          | '$' =>
            let a : Anchor := if m.multiline then .lineEnd else .lastLineEnd
            readSequence leading fuel m (s.push (.anchor a) .anchor)
          | '(' =>
            match ← readGroup leading fuel m start s with
            | some s => readSequence leading fuel m s
            | none => readSequence leading fuel (← get).global s
          | _ => readSequence leading fuel m (s.push (.char (m.literal c.toNat)))

/-- Reads a group after its opening parenthesis at `start` and adds it to the sequence.  Flags for
the whole pattern give nothing. -/
def readGroup (leading : Bool) :
    Nat → Modes → Nat → Sequence → ReadM (Option Sequence)
  | 0, _, _, _ => throw (.fault .nestedTooDeep none)
  | fuel + 1, m, start, s => do
    let capture (groupName : Option (List Char)) : ReadM (Option Sequence) := do
      let index ← openGroup groupName
      let a ← readAlternatives false fuel m
      readClose start
      closeGroup index a
      pure (some (s.push (.group index a)))
    if ← accept '?' then
      match ← next with
      | none => fail .unexpectedEnd 0
      | some (.plain 'P') =>
        if ← accept '<' then
          let chars ← name '>' "group name"
          if isIdentifier chars then capture (some chars)
          else fail (.badGroupName (String.ofList chars)) (chars.length + 1)
        else if ← accept '=' then
          pure (some (s.push (← readNamedReference m)))
        else
          match ← next with
          | none => fail .unexpectedEnd 0
          | some t => fail (.unknownExtension ("P" ++ t.text)) (t.chars.length + 2)
      | some (.plain ':') => do
        let a ← readAlternatives false fuel m
        readClose start
        pure (some (s.push a))
      | some (.plain '#') => do
        skipComment start ((← get).tokens.length + 1)
        pure (some s)
      | some (.plain '=') => do pure (some (s.push (← readLook fuel m start false false)))
      | some (.plain '!') => do pure (some (s.push (← readLook fuel m start false true)))
      | some (.plain '<') =>
        match ← next with
        | none => fail .unexpectedEnd 0
        | some (.plain '=') => do pure (some (s.push (← readLook fuel m start true false)))
        | some (.plain '!') => do pure (some (s.push (← readLook fuel m start true true)))
        | some t => fail (.unknownExtension ("<" ++ t.text)) (t.chars.length + 2)
      | some (.plain '(') => do
        let index ← readCondition
        let yes ← readSequence false fuel m {}
        let no ←
          if ← accept '|' then
            let no ← readSequence false fuel m {}
            if (← peek) == some (.plain '|') then fail .tooManyBranches 0 else pure no
          else pure .empty
        readClose start
        pure (some (s.push (.cond index yes no)))
      | some (.plain '>') => do
        let a ← readAlternatives false fuel m
        readClose start
        pure (some (s.push (.atomic a)))
      | some t =>
        match if t == .plain '-' then some '-' else flagLetter? t with
        | none => fail (.unknownExtension t.text) (t.chars.length + 1)
        | some c =>
          match ← readFlags c with
          | none =>
            if leading && s.nodes.isEmpty then pure none
            else fail .lateFlags ((← position) - start)
          | some (on, off) =>
            let a ← readAlternatives false fuel ((m.add on).remove off)
            readClose start
            pure (some (s.push a))
    else capture none

/-- Reads the content of a look-ahead or a look-behind, up to the closing parenthesis. -/
def readLook : Nat → Modes → Nat → Bool → Bool → ReadM Node
  | 0, _, _, _, _ => throw (.fault .nestedTooDeep none)
  | fuel + 1, m, start, behind, negated => do
    let before := (← get).lookBehind
    if behind && before.isNone then
      modify fun r => { r with lookBehind := some (r.widths.length + 1) }
    let a ← readAlternatives false fuel m
    if behind then modify fun r => { r with lookBehind := before }
    readClose start
    pure (.look behind negated a)

end

/-- Reads a whole pattern: its tree, and whether it is a template. -/
def readPattern : ReadM (Node × Bool) := do
  let a ← readAlternatives true (4 * (← get).tokens.length + 4) {}
  let r ← get
  if r.global.ascii && r.global.unicode then throw .clashingModes
  if (← peek).isSome then fail .unbalancedParenthesis 0
  match r.conditions.reverse.find? fun (n, _) => r.widths.length < n with
  | some (n, position) => throw (.fault (.unknownGroupNumber n) (some position))
  | none => pure (a, r.global.template)

/-- The tree of a pattern. -/
def parse (source : String) : Except Refusal Node := do
  let (tokens, dangling) := Token.split source.toList
  let r ← ReadM.settle ⟨tokens, 0, dangling, {}, [], [], none, []⟩
  let ((a, template), _) ← readPattern.run r
  match a.check template with
  | some f => .error (.fault f none)
  | none => .ok a

end CommitPolicy.Pattern

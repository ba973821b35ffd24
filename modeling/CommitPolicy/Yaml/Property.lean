import CommitPolicy.Text.Utf8
import CommitPolicy.Yaml.Token

/-!
# Reading tags, anchors and directives
-/

namespace CommitPolicy.Yaml

open Text

/-- What a tag or a directive that is being read is called in faults. -/
inductive Property where
  | tag
  | directive
  deriving DecidableEq, Repr

/-- A property as it is named. -/
def Property.name : Property → String
  | tag => "tag"
  | directive => "directive"

/-- A fault in a property that starts at `start`, with what was expected and found. -/
def Property.fault (p : Property) (start : Mark) (problem : String) (c : Cursor) : Fault :=
  .inside ("while scanning a " ++ p.name) start problem c.mark

/-- Where a directive starts that is being read, what is expected and what is found. -/
def directiveFault (start : Mark) (expected : String) (c : Cursor) : Fault :=
  Property.directive.fault start ("expected " ++ expected ++ ", but found " ++ named c.peek) c

/-! ### Anchors -/

/-- Reads an anchor, or an alias for one. -/
def readAnchor (isAlias : Bool) (c : Cursor) : Except Fault (Token × Cursor) :=
  let start := c.mark
  let context := "while scanning an " ++ (if isAlias then "alias" else "anchor")
  let (name, c) := c.next.span isNameChar
  let text := String.ofList name
  if name.isEmpty || !(isGap c.peek || "?:,]\x7d%@".toList.contains c.peek || c.peek.toNat == 0x60) then
    .error (.inside context start
      ("expected alphabetic or numeric character, but found " ++ named c.peek) c.mark)
  else .ok (⟨if isAlias then .anchorUse text else .anchor text, start, c.mark⟩, c)

/-! ### Tags -/

/-- The characters of tags. -/
def isUriChar (c : Char) : Bool :=
  isAsciiLetter c || isAsciiDigit c || "-;/?:@&=+$,_.!~*'()[]".toList.contains c

/-- The bytes of escapes such as `%41`, at most `fuel` of them. -/
def uriBytes (p : Property) (start : Mark) : Nat → Cursor → Except Fault (List UInt8 × Cursor)
  | 0, c => .ok ([], c)
  | fuel + 1, c =>
    if c.peek == '%' then
      let c := c.next
      let digits := (c.rest.take 2).takeWhile isHexDigit
      if digits.length = 2 then do
        let (more, c) ← uriBytes p start fuel (c.skip 2)
        .ok (UInt8.ofNat (hexValue digits) :: more, c)
      else
        .error (p.fault start
          ("expected URI escape sequence of 2 hexadecimal numbers, but found "
            ++ named (c.peekAt digits.length)) c)
    else .ok ([], c)

/-- Reads the characters of a tag. -/
def readUriFrom (p : Property) (start : Mark) : Nat → Cursor → Except Fault (List Char × Cursor)
  | 0, c => .ok ([], c)
  | fuel + 1, c =>
    if c.peek == '%' then do
      let (bytes, after) ← uriBytes p start (c.rest.length + 1) c
      match decode? bytes with
      | none => .error (p.fault start "'utf-8' codec can't decode bytes" c)
      | some text =>
        let (more, after) ← readUriFrom p start fuel after
        .ok (text.toList ++ more, after)
    else if isUriChar c.peek then do
      let (more, after) ← readUriFrom p start fuel c.next
      .ok (c.peek :: more, after)
    else .ok ([], c)

/-- Reads the characters of a tag, of which there has to be one. -/
def readUri (p : Property) (start : Mark) (c : Cursor) : Except Fault (String × Cursor) := do
  let (uri, after) ← readUriFrom p start (c.rest.length + 1) c
  if uri.isEmpty then
    .error (.inside ("while parsing a " ++ p.name) start
      ("expected URI, but found " ++ named after.peek) after.mark)
  else .ok (String.ofList uri, after)

/-- Reads a handle such as `!`, `!!` or `!e!`. -/
def readHandle (p : Property) (start : Mark) (c : Cursor) : Except Fault (String × Cursor) :=
  if c.peek != '!' then .error (p.fault start ("expected '!', but found " ++ named c.peek) c)
  else
    let (name, after) := c.next.span isNameChar
    if c.peekAt 1 == ' ' then .ok ("!", c.next)
    else if after.peek == '!' then .ok (String.ofList ('!' :: name ++ ['!']), after.next)
    else .error (p.fault start ("expected '!', but found " ++ named after.peek) after)

/-- Reads a tag up to its end: in angle brackets, alone, or with a handle. -/
def readTagName (start : Mark) (c : Cursor) : Except Fault (TagName × Cursor) := do
  let x := c.peekAt 1
  if x == '<' then
    let (uri, c) ← readUri .tag start (c.skip 2)
    if c.peek == '>' then .ok (⟨none, uri⟩, c.next)
    else .error (.inside "while parsing a tag" start ("expected '>', but found " ++ named c.peek) c.mark)
  else if isGap x then .ok (⟨none, "!"⟩, c.next)
  else if (c.next.rest.takeWhile fun x => !isSpaceOrEnd x).contains '!' then
    let (handle, c) ← readHandle .tag start c
    let (suffix, c) ← readUri .tag start c
    .ok (⟨some handle, suffix⟩, c)
  else
    let (suffix, c) ← readUri .tag start c.next
    .ok (⟨some "!", suffix⟩, c)

/-- Reads a tag. -/
def readTag (c : Cursor) : Except Fault (Token × Cursor) := do
  let start := c.mark
  let (name, c) ← readTagName start c
  if isSpaceOrEnd c.peek then .ok (⟨.tag name, start, c.mark⟩, c)
  else .error (Property.tag.fault start ("expected ' ', but found " ++ named c.peek) c)

/-! ### Directives -/

/-- Reads a part of the number of a version. -/
def readVersionPart (start : Mark) (c : Cursor) : Except Fault (Nat × Cursor) :=
  let (digits, after) := c.span isAsciiDigit
  if digits.isEmpty then .error (directiveFault start "a digit" c)
  else if maxDigits < digits.length then .error (.tooManyDigits digits.length)
  else .ok (decimalValue digits, after)

/-- Reads the number of a version. -/
def readVersion (start : Mark) (c : Cursor) : Except Fault (Directive × Cursor) := do
  let (major, c) ← readVersionPart start (c.skipWhile (· == ' '))
  if c.peek != '.' then .error (directiveFault start "a digit or '.'" c)
  else
    let (minor, c) ← readVersionPart start c.next
    if isSpaceOrEnd c.peek then .ok (.version major minor, c)
    else .error (directiveFault start "a digit or ' '" c)

/-- Reads a handle and the tag that it stands for. -/
def readTagDirective (start : Mark) (c : Cursor) : Except Fault (Directive × Cursor) := do
  let (handle, c) ← readHandle .directive start (c.skipWhile (· == ' '))
  if c.peek != ' ' then .error (directiveFault start "' '" c)
  else
    let (uri, c) ← readUri .directive start (c.skipWhile (· == ' '))
    if isSpaceOrEnd c.peek then .ok (.tag handle uri, c)
    else .error (directiveFault start "' '" c)

/-- Reads a directive and the rest of its line. -/
def readDirective (c : Cursor) : Except Fault (Token × Cursor) := do
  let start := c.mark
  let (name, c) := c.next.span isNameChar
  if name.isEmpty || !isSpaceOrEnd c.peek then
    .error (directiveFault start "alphabetic or numeric character" c)
  else
    let (d, c) ←
      if name = "YAML".toList then readVersion start c
      else if name = "TAG".toList then readTagDirective start c
      else .ok (.other, c.skipWhile fun x => !endsLine x)
    let stop := c.mark
    let c := c.skipComment
    if endsLine c.peek then .ok (⟨.directive d, start, stop⟩, c.takeBreak.2)
    else .error (directiveFault start "a comment or a line break" c)

end CommitPolicy.Yaml

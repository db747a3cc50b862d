import CqlSchema.Yaml.Place
import CqlSchema.Yaml.Token
import CqlSchema.Decimal.Read

/-! What stands before a node or before a document: names of anchors, tags, and directives. -/
namespace CqlSchema.Yaml

/-- The name of an anchor, at least one character long and followed by a space or a mark. -/
def readAnchorName (place : Place) : Option (String × Place) :=
  let (name, behind) := place.span isNameChar
  let ends := Place.endsWord behind.rest ||
    behind.head?.any fun c => "?:,]\x7d%@`".toList.contains c
  if name.isEmpty || !ends then none else some (String.ofList name, behind)

/-! ## Tags -/

def isTagChar (verbatim : Bool) (c : Char) : Bool :=
  isNameChar c || ";/?:@&=+$.!~*'()".toList.contains c || (verbatim && ",[]".toList.contains c)

def escapedByte? : Text → Option (Nat × Text)
  | '%' :: a :: b :: rest => (Decimal.natural? 16 [a, b]).map (·, rest)
  | _ => none

/-- The bytes that go on a character, each with six bits of its code point. -/
def readContinuation (count value : Nat) (text : Text) : Option (Nat × Text) :=
  match count with
  | 0 => some (value, text)
  | count + 1 => do
    let (byte, rest) ← escapedByte? text
    if byte / 0x40 ≠ 2 then none
    readContinuation count (value * 0x40 + byte % 0x40) rest

/-- A character given by its escaped bytes: the character, their number and the text behind them. -/
def readEscapedChar (text : Text) : Option (Char × Nat × Text) := do
  let (byte, rest) ← escapedByte? text
  let (count, value) ←
    if byte < 0x80 then some (0, byte)
    else if byte / 0x20 = 6 then some (1, byte % 0x20)
    else if byte / 0x10 = 14 then some (2, byte % 0x10)
    else if byte / 0x8 = 30 then some (3, byte % 0x8)
    else none
  let (value, rest) ← readContinuation count value rest
  some (Char.ofNat value, count + 1, rest)

def readTagText (verbatim : Bool) (mark : Mark) (text : Text) : Option (Text × Place) :=
  match text with
  | [] => some ([], ⟨[], mark⟩)
  | c :: rest =>
    if c == '%' then do
      let (d, bytes, behind) ← readEscapedChar (c :: rest)
      if behind.length ≤ rest.length then
        let (tail, place) ← readTagText verbatim (mark.right (3 * bytes)) behind
        some (d :: tail, place)
      else none
    else if isTagChar verbatim c then do
      let (tail, place) ← readTagText verbatim (mark.right 1) rest
      some (c :: tail, place)
    else some ([], ⟨c :: rest, mark⟩)
termination_by text.length

def readTagHandle (place : Place) : Option (Text × Place) :=
  if place.head? == some '!' then
    let (name, behind) := (place.drop 1).span isNameChar
    if behind.head? == some '!' then some ('!' :: (name ++ ['!']), behind.drop 1)
    else some ('!' :: name, behind)
  else none

/-- The handle and the suffix of a tag. A tag without a handle of its own has the handle `!`, and the
tag `!` alone has none. -/
def readTag (place : Place) : Option ((Text × Text) × Place) := do
  if (place.rest.drop 1).head? == some '<' then
    let body := place.drop 2
    let (suffix, behind) ← readTagText true body.mark body.rest
    if suffix.isEmpty || behind.head? ≠ some '>' then none
    some (([], suffix), behind.drop 1)
  else
    let (handle, behind) ← readTagHandle place
    let (suffix, last) ← readTagText false behind.mark behind.rest
    if 1 < handle.length && handle.getLast? == some '!' then
      if suffix.isEmpty then none else some ((handle, suffix), last)
    else
      let suffix := handle.drop 1 ++ suffix
      some (if suffix.isEmpty then ([], ['!']) else (['!'], suffix), last)

def readTagToken (inFlow : Bool) (place : Place) : Option (Token × Place) := do
  let ((handle, suffix), behind) ← readTag place
  if Place.endsWord behind.rest || (inFlow && behind.head? == some ',') then
    some (.tag (String.ofList handle) (String.ofList suffix), behind)
  else none

/-! ## Directives -/

def readVersionNumber (place : Place) : Option (Nat × Place) :=
  let (digits, behind) := place.span Char.isDigit
  if 9 < digits.length then none else (Decimal.natural? 10 digits).map (·, behind)

def readVersion (place : Place) : Option (Token × Place) := do
  let (major, behind) ← readVersionNumber place
  if behind.head? ≠ some '.' then none
  let (minor, behind) ← readVersionNumber (behind.drop 1)
  some (.version major minor, behind)

def readTagDirective (place : Place) : Option (Token × Place) := do
  let (handle, behind) ← readTagHandle place
  if 1 < handle.length && handle.getLast? ≠ some '!' then none
  if !behind.head?.any isBlank then none
  let behind := behind.skipBlanks
  let (replacement, behind) ← readTagText true behind.mark behind.rest
  if replacement.isEmpty || !Place.endsWord behind.rest then none
  some (.tagHandle (String.ofList handle) (String.ofList replacement), behind)

def readDirective (place : Place) : Option (Token × Place) := do
  let (name, behind) := (place.drop 1).span isNameChar
  if name.isEmpty || !Place.endsWord behind.rest then none
  let body := behind.skipBlanks
  let (token, behind) ←
    match String.ofList name with
    | "YAML" => readVersion body
    | "TAG" => readTagDirective body
    | _ => none
  let behind := behind.skipBlanks
  let behind := if behind.head? == some '#' then behind.skipLine else behind
  if behind.head?.any (!isBreak ·) then none
  some (token, (behind.lineBreak?.map (·.2)).getD behind)

end CqlSchema.Yaml

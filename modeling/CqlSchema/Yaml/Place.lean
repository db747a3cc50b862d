import CqlSchema.Text.Basic

/-! Places in the text of a YAML document, and the space between its words. -/
namespace CqlSchema.Yaml

def isAllowed (c : Char) : Bool :=
  let n := c.toNat
  n == 0x9 || n == 0xa || n == 0xd || (0x20 ≤ n && n ≤ 0x7e) || n == 0x85 ||
    (0xa0 ≤ n && n ≤ 0xfffd) || 0x10000 ≤ n

def isBlank (c : Char) : Bool := c == ' ' || c == '\t'

def isBreak (c : Char) : Bool :=
  c == '\n' || c == '\x0d' || c == '\u0085' || c == '\u2028' || c == '\u2029'

def isSpace (c : Char) : Bool := isBlank c || isBreak c

def isNameChar (c : Char) : Bool := c.isAlphanum || c == '_' || c == '-'

/-- How far a place is from the start of the text, in characters and in lines, and from the start of
its line. -/
structure Mark where
  index : Nat := 0
  line : Nat := 0
  column : Nat := 0
  deriving Repr

def Mark.right (mark : Mark) (n : Nat) : Mark :=
  { mark with index := mark.index + n, column := mark.column + n }

def Mark.down (mark : Mark) (n : Nat) : Mark := ⟨mark.index + n, mark.line + 1, 0⟩

structure Place where
  rest : Text
  mark : Mark := {}
  deriving Repr

namespace Place

def head? (place : Place) : Option Char := place.rest.head?

def drop (place : Place) (n : Nat) : Place := ⟨place.rest.drop n, place.mark.right n⟩

/-- The characters up to the first that is not in `p`, which holds of no line break, and the place
behind them. -/
def span (place : Place) (p : Char → Bool) : Text × Place :=
  let taken := place.rest.takeWhile p
  (taken, ⟨place.rest.dropWhile p, place.mark.right taken.length⟩)

def skipBlanks (place : Place) : Place := (place.span isBlank).2

def skipLine (place : Place) : Place := (place.span (!isBreak ·)).2

/-- How a line break is read: one of the common kinds as a newline, the others as they are. -/
def breakText (c : Char) : Text := if c == '\u2028' || c == '\u2029' then [c] else ['\n']

/-- The line break at the place, if there is one, and the place behind it. -/
def lineBreak? (place : Place) : Option (Text × Place) :=
  match place.rest with
  | '\x0d' :: '\n' :: rest => some (['\n'], ⟨rest, place.mark.down 2⟩)
  | c :: rest => if isBreak c then some (breakText c, ⟨rest, place.mark.down 1⟩) else none
  | [] => none

def endsWord : Text → Bool
  | [] => true
  | c :: _ => isSpace c

/-- Whether the line starts with `mark`, three characters long, and nothing else in the word. -/
def startsLineWith (place : Place) (mark : String) : Bool :=
  place.mark.column == 0 && mark.toList.isPrefixOf place.rest && endsWord (place.rest.drop 3)

def atDocumentMark (place : Place) : Bool :=
  place.startsLineWith "---" || place.startsLineWith "..."

end Place

/-- The space between two words of a scalar: blanks, or line breaks with blanks around them. Of the
breaks the first is kept apart. -/
inductive Gap
  | blanks (blanks : Text)
  | lines (first others : Text)
  deriving Repr

namespace Gap

def none : Gap := blanks []

def addBlank (c : Char) : Gap → Gap
  | blanks text => blanks (text ++ [c])
  | gap => gap

def addBreak (text : Text) : Gap → Gap
  | blanks _ => lines text []
  | lines first others => lines first (others ++ text)

def hasLines : Gap → Bool
  | lines .. => true
  | blanks _ => false

def isNone : Gap → Bool
  | blanks text => text.isEmpty
  | lines .. => false

/-- Blanks stay. A single newline becomes a space, and the first of several newlines is dropped. -/
def folded : Gap → Text
  | blanks text => text
  | lines ['\n'] [] => [' ']
  | lines ['\n'] others => others
  | lines first others => first ++ others

end Gap

/-- The gap that starts with `gap` and goes on at the place. Behind a line break no tab may stand
left of the column `least`. -/
def readGap (least : Nat) (gap : Gap) (mark : Mark) : Text → Option (Gap × Place)
  | [] => some (gap, ⟨[], mark⟩)
  | '\x0d' :: '\n' :: rest => readGap least (gap.addBreak ['\n']) (mark.down 2) rest
  | c :: rest =>
    if isBreak c then readGap least (gap.addBreak (Place.breakText c)) (mark.down 1) rest
    else if isBlank c then
      if c == '\t' && gap.hasLines && mark.column < least then none
      else readGap least (gap.addBlank c) (mark.right 1) rest
    else some (gap, ⟨c :: rest, mark⟩)

end CqlSchema.Yaml

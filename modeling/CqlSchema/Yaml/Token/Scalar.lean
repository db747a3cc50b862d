import CqlSchema.Decimal.Read
import CqlSchema.Yaml.Place
import CqlSchema.Yaml.Token

/-! The text of scalars: plain, between quotes, and in a block of lines. Each reader gives what the
scalar says and the place behind it, or nothing if it is malformed. Each step takes a character or
more, so a bound on the steps as large as the text is never met. -/
namespace CqlSchema.Yaml

/-! ## Plain scalars -/

def isFlowMark (c : Char) : Bool := c == ',' || c == '[' || c == ']' || c == '\x7b' || c == '\x7d'

structure PlainText where
  text : Text
  gap : Gap
  place : Place

/-- The rest of a plain scalar behind `gap`. In a block it ends at the first line that starts left of
the column `least`. -/
def readPlain (inFlow : Bool) (least : Nat) (gap : Gap) (place : Place) : Nat → Option PlainText
  | 0 => none
  | bound + 1 =>
    let ended : PlainText := ⟨[], gap, place⟩
    if place.atDocumentMark then some ended
    else match place.rest with
      | [] => some ended
      | c :: rest =>
        if c == '#' && !gap.isNone then some ended
        else if isSpace c then do
          let (gap, next) ← readGap least gap place.mark (c :: rest)
          if !inFlow && next.mark.column < least then some ⟨[], gap, next⟩
          else readPlain inFlow least gap next bound
        else if inFlow && c == ':' && rest.head?.any fun d => isFlowMark d || d == '?' then none
        else if (c == ':' && Place.endsWord rest) || (inFlow && isFlowMark c) then some ended
        else do
          let tail ← readPlain inFlow least Gap.none (place.drop 1) bound
          some { tail with text := gap.folded ++ c :: tail.text }

/-! ## Scalars between quotes -/

def escaped? : Char → Option Char
  | '0' => some '\x00'
  | 'a' => some '\x07'
  | 'b' => some '\x08'
  | 't' | '\t' => some '\t'
  | 'n' => some '\n'
  | 'v' => some '\x0b'
  | 'f' => some '\x0c'
  | 'r' => some '\x0d'
  | 'e' => some '\x1b'
  | ' ' => some ' '
  | '"' => some '"'
  | '/' => some '/'
  | '\\' => some '\\'
  | 'N' => some '\u0085'
  | '_' => some '\u00a0'
  | 'L' => some '\u2028'
  | 'P' => some '\u2029'
  | _ => none

def codeLength? : Char → Option Nat
  | 'x' => some 2
  | 'u' => some 4
  | 'U' => some 8
  | _ => none

/-- The escape behind a backslash: the character it stands for, and its length. -/
def readEscape : Text → Option (Char × Nat)
  | [] => none
  | c :: rest =>
    match escaped? c, codeLength? c with
    | some d, _ => some (d, 1)
    | none, some length => do
      let digits := rest.take length
      if digits.length ≠ length then none
      let n ← Decimal.natural? 16 digits
      if n.isValidChar then some (Char.ofNat n, 1 + length) else none
    | none, none => none

/-- The rest of a scalar up to its closing quote. Between double quotes a backslash escapes the next
character or joins the next line. -/
def readQuoted (quote : Char) (place : Place) : Nat → Option (Text × Place)
  | 0 => none
  | bound + 1 =>
    if place.atDocumentMark then none
    else match place.rest with
      | [] => none
      | c :: rest =>
        if c == quote then
          if quote == '\'' && rest.head? == some '\'' then
            consing ['\''] (readQuoted quote (place.drop 2) bound)
          else some ([], place.drop 1)
        else if isSpace c then do
          let (gap, next) ← readGap 0 Gap.none place.mark (c :: rest)
          consing gap.folded (readQuoted quote next bound)
        else if c == '\\' && quote == '"' then
          match (place.drop 1).lineBreak? with
          | some (_, line) => do
            let (gap, next) ← readGap 0 (Gap.lines [] []) line.mark line.rest
            consing gap.folded (readQuoted quote next bound)
          | none => do
            let (d, length) ← readEscape rest
            consing [d] (readQuoted quote (place.drop (1 + length)) bound)
        else consing [c] (readQuoted quote (place.drop 1) bound)
where
  consing (text : Text) (tail : Option (Text × Place)) : Option (Text × Place) :=
    tail.map fun (rest, last) => (text ++ rest, last)

/-! ## Scalars in a block -/

inductive Chomping
  | strip
  | clip
  | keep
  deriving DecidableEq, Repr

def chomping? : Char → Option Chomping
  | '-' => some .strip
  | '+' => some .keep
  | _ => none

def indentation? (c : Char) : Option Nat := if c.isDigit then some (c.toNat - '0'.toNat) else none

/-- The chomping and the indentation, in either order, and the place behind them. -/
def readBlockHead (place : Place) : Option (Chomping × Option Nat × Place) :=
  let chomping := place.head?.bind chomping?
  let place := if chomping.isSome then place.drop 1 else place
  let indentation := place.head?.bind indentation?
  let place := if indentation.isSome then place.drop 1 else place
  let later := if chomping.isNone && indentation.isSome then place.head?.bind chomping? else none
  let place := if later.isSome then place.drop 1 else place
  if indentation == some 0 then none
  else some ((chomping.or later).getD .clip, indentation, place)

/-- The breaks of empty lines, the widest of their indentations, and the place behind the indentation
of the line after them. Up to the column `indent`, or any column if it is not known, a tab is no
indentation. -/
def readBreaks (indent : Option Nat) (breaks : Text) (widest : Nat) (place : Place) :
    Nat → Option (Text × Nat × Place)
  | 0 => none
  | bound + 1 =>
    let outside (column : Nat) : Bool := indent.all (column < ·)
    let wanted := match indent with
      | some indent => (place.rest.take (indent - place.mark.column)).takeWhile (· == ' ')
      | none => place.rest.takeWhile (· == ' ')
    let place := place.drop wanted.length
    let widest := max widest place.mark.column
    if outside place.mark.column && place.head? == some '\t' then none
    else match place.lineBreak? with
      | none => some (breaks, widest, place)
      | some (text, next) => readBreaks indent (breaks ++ text) widest next bound

/-- The lines of a block that is indented to the column `indent`. Before the line at the place stand
the `first` break and the `others`, and `indented` says whether the line before it starts with a
blank. -/
def readBlockLines (fold : Bool) (chomping : Chomping) (indent : Nat) (first others : Text)
    (indented : Bool) (place : Place) : Nat → Option (Text × Place)
  | 0 => none
  | bound + 1 =>
    match place.rest with
    | c :: _ =>
      if place.mark.column == indent then do
        let joined := fold && first == ['\n'] && !indented && !isBlank c
        let before := if joined then (if others.isEmpty then [' '] else others) else first ++ others
        let (line, behind) := place.span (!isBreak ·)
        let (first, next) := behind.lineBreak?.getD ([], behind)
        let (others, _, next) ← readBreaks (some indent) [] 0 next (bound + 1)
        let (tail, last) ←
          readBlockLines fold chomping indent first others (isBlank c) next bound
        some (before ++ line ++ tail, last)
      else some (ending, place)
    | [] => some (ending, place)
where
  ending : Text :=
    match chomping with
    | .strip => []
    | .clip => first
    | .keep => first ++ others

/-- A block scalar behind its mark. The block around it starts at the column before `least`. -/
def readBlock (fold : Bool) (least : Nat) (place : Place) (bound : Nat) :
    Option (Text × Place) := do
  let (chomping, indentation, place) ← readBlockHead place
  let place := place.skipBlanks
  let place := if place.head? == some '#' then place.skipLine else place
  if place.head?.any (!isBreak ·) then none
  let place := (place.lineBreak?.map (·.2)).getD place
  let known := indentation.map (least - 1 + ·)
  let (breaks, widest, place) ← readBreaks known [] 0 place bound
  let indent := known.getD (max (max widest least) 1)
  readBlockLines fold chomping indent [] breaks false place bound

end CqlSchema.Yaml

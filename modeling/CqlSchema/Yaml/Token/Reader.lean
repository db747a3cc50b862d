import CqlSchema.Yaml.Token.Property
import CqlSchema.Yaml.Token.Scalar

/-! A YAML document as a list of tokens. Indentation opens and closes blocks. A word turns out to be
the name of an entry only at the colon behind it, so the tokens before the word are numbered and the
mark of a name is put in there. -/
namespace CqlSchema.Yaml

/-- A word that may turn out to be the name of an entry. A required one must. -/
structure PossibleKey where
  required : Bool
  token : Nat
  mark : Mark

/-- The text behind a place, and what was read before it. The tokens are kept last first. The margin
is one more than the column of the block around the place, or zero outside all blocks, and `margins`
are those of the blocks around it. For each list or map in brackets around the place and for the
block around them there is one possible key. -/
structure TokenReader where
  place : Place
  tokens : List Token := []
  count : Nat := 0
  margin : Nat := 0
  margins : List Nat := []
  keyAllowed : Bool := true
  key : Option PossibleKey := none
  outerKeys : List (Option PossibleKey) := []

namespace TokenReader

def inFlow (reader : TokenReader) : Bool := !reader.outerKeys.isEmpty

def push (reader : TokenReader) (token : Token) : TokenReader :=
  { reader with tokens := token :: reader.tokens, count := reader.count + 1 }

def insert (reader : TokenReader) (position : Nat) (token : Token) : TokenReader :=
  let later := reader.count - position
  { reader with
    tokens := reader.tokens.take later ++ token :: reader.tokens.drop later
    count := reader.count + 1 }

/-! ## Blocks -/

def closeBlocks (margin : Nat) (reader : TokenReader) : List Nat → TokenReader
  | [] => { reader with margins := [] }
  | outer :: margins =>
    if margin < reader.margin then
      closeBlocks margin { reader.push .blockEnd with margin := outer } margins
    else { reader with margins := outer :: margins }

def closeTo (margin : Nat) (reader : TokenReader) : TokenReader :=
  if reader.inFlow then reader else closeBlocks margin reader reader.margins

def openBlock (column position : Nat) (token : Token) (reader : TokenReader) : TokenReader :=
  if reader.inFlow || column < reader.margin then reader
  else
    { reader.insert position token with
      margin := column + 1, margins := reader.margin :: reader.margins }

/-! ## Possible keys -/

def dropKey (reader : TokenReader) : Option TokenReader :=
  if reader.key.any (·.required) then none else some { reader with key := none }

/-- A key must be on one line with its colon, and not too long. -/
def isStale (mark : Mark) (key : PossibleKey) : Bool :=
  key.mark.line < mark.line || key.mark.index + 1024 < mark.index

def dropStaleKeys (reader : TokenReader) : Option TokenReader :=
  let mark := reader.place.mark
  let stale (key : Option PossibleKey) : Bool := key.any (isStale mark)
  let lost (key : Option PossibleKey) : Bool := key.any fun key => isStale mark key && key.required
  if (reader.key :: reader.outerKeys).any lost then none
  else
    let kept (key : Option PossibleKey) : Option PossibleKey := if stale key then none else key
    some { reader with key := kept reader.key, outerKeys := reader.outerKeys.map kept }

def noteKey (reader : TokenReader) : Option TokenReader :=
  if reader.keyAllowed then do
    let required := !reader.inFlow && reader.margin == reader.place.mark.column + 1
    let reader ← reader.dropKey
    some { reader with key := some ⟨required, reader.count, reader.place.mark⟩ }
  else some reader

/-! ## Tokens -/

/-- The space and the comments before the next token: whether a key is allowed behind them, and the
place there. In a block a new line allows a key, and tabs are space only where no key is allowed. -/
def skipSpace (inFlow keyAllowed inComment : Bool) (mark : Mark) : Text → Bool × Place
  | [] => (keyAllowed, ⟨[], mark⟩)
  | '\x0d' :: '\n' :: rest => skipSpace inFlow (keyAllowed || !inFlow) false (mark.down 2) rest
  | c :: rest =>
    if isBreak c then skipSpace inFlow (keyAllowed || !inFlow) false (mark.down 1) rest
    else if inComment || c == ' ' || (c == '\t' && (inFlow || !keyAllowed)) then
      skipSpace inFlow keyAllowed inComment (mark.right 1) rest
    else if c == '#' then skipSpace inFlow keyAllowed true (mark.right 1) rest
    else (keyAllowed, ⟨c :: rest, mark⟩)

def toNextToken (reader : TokenReader) : Option TokenReader := do
  let (keyAllowed, place) :=
    skipSpace reader.inFlow reader.keyAllowed false reader.place.mark reader.place.rest
  let reader ← { reader with place, keyAllowed }.dropStaleKeys
  some (reader.closeTo (place.mark.column + 1))

def take (n : Nat) (token : Token) (reader : TokenReader) : TokenReader :=
  { reader with place := reader.place.drop n }.push token

def leaveBlocks (reader : TokenReader) : Option TokenReader := do
  let reader ← (reader.closeTo 0).dropKey
  some { reader with keyAllowed := false }

def readDirectiveToken (reader : TokenReader) : Option TokenReader := do
  let reader ← reader.leaveBlocks
  let (token, place) ← readDirective reader.place
  some ({ reader with place }.push token)

def openFlow (token : Token) (reader : TokenReader) : Option TokenReader := do
  let reader ← reader.noteKey
  some (take 1 token
    { reader with key := none, outerKeys := reader.key :: reader.outerKeys, keyAllowed := true })

def closeFlow (token : Token) (reader : TokenReader) : Option TokenReader := do
  let reader ← reader.dropKey
  let reader := match reader.outerKeys with
    | [] => reader
    | key :: outerKeys => { reader with key, outerKeys }
  some (take 1 token { reader with keyAllowed := false })

def flowEntry (reader : TokenReader) : Option TokenReader := do
  let reader ← reader.dropKey
  some (take 1 .flowEntry { reader with keyAllowed := true })

def openBlockFor (token : Token) (reader : TokenReader) : Option TokenReader :=
  if reader.inFlow then some reader
  else if reader.keyAllowed then
    some (reader.openBlock reader.place.mark.column reader.count token)
  else none

def blockEntry (reader : TokenReader) : Option TokenReader := do
  let reader ← reader.openBlockFor .blockSequence
  let reader ← reader.dropKey
  some (take 1 .blockEntry { reader with keyAllowed := true })

def keyMark (reader : TokenReader) : Option TokenReader := do
  let reader ← reader.openBlockFor .blockMapping
  let reader ← reader.dropKey
  some (take 1 .key { reader with keyAllowed := !reader.inFlow })

def valueMark (reader : TokenReader) : Option TokenReader :=
  match reader.key with
  | some key =>
    let reader := reader.insert key.token .key
    let reader := reader.openBlock key.mark.column key.token .blockMapping
    some (take 1 .value { reader with key := none, keyAllowed := false })
  | none => do
    let reader ← reader.openBlockFor .blockMapping
    some (take 1 .value { reader with keyAllowed := !reader.inFlow })

def nameToken (token : String → Token) (reader : TokenReader) : Option TokenReader := do
  let reader ← reader.noteKey
  let (name, place) ← readAnchorName (reader.place.drop 1)
  some ({ reader with place, keyAllowed := false }.push (token name))

def tagToken (reader : TokenReader) : Option TokenReader := do
  let reader ← reader.noteKey
  let (token, place) ← readTagToken reader.inFlow reader.place
  some ({ reader with place, keyAllowed := false }.push token)

def blockScalar (fold : Bool) (bound : Nat) (reader : TokenReader) : Option TokenReader := do
  let reader ← reader.dropKey
  let (text, place) ← readBlock fold reader.margin (reader.place.drop 1) bound
  let style := if fold then .folded else .literal
  some ({ reader with place, keyAllowed := true }.push (.scalar (String.ofList text) style))

def quotedScalar (quote : Char) (bound : Nat) (reader : TokenReader) : Option TokenReader := do
  let reader ← reader.noteKey
  let (text, place) ← readQuoted quote (reader.place.drop 1) bound
  some ({ reader with place, keyAllowed := false }.push (.scalar (String.ofList text) .quoted))

/-- A plain scalar that ends in a new line allows a key behind it. -/
def plainScalar (bound : Nat) (reader : TokenReader) : Option TokenReader := do
  let reader ← reader.noteKey
  let plain ← readPlain reader.inFlow reader.margin Gap.none reader.place bound
  some ({ reader with place := plain.place, keyAllowed := plain.gap.hasLines }.push
    (.scalar (String.ofList plain.text) .plain))

/-- Whether a plain scalar may start with `c`, with `rest` behind it. -/
def startsPlain (inFlow : Bool) (c : Char) (rest : Text) : Bool :=
  !(isSpace c || "-?:,[]\x7b\x7d#&*!|>'\"%@`".toList.contains c) ||
    (c == '-' && !rest.head?.any isBlank) ||
    (!inFlow && (c == '?' || c == ':') && !Place.endsWord rest)

def readToken (c : Char) (rest : Text) (bound : Nat) (reader : TokenReader) : Option TokenReader :=
  let place := reader.place
  let alone := Place.endsWord rest
  if place.mark.column == 0 && c == '%' then reader.readDirectiveToken
  else if place.startsLineWith "---" then reader.leaveBlocks.map (take 3 .documentStart)
  else if place.startsLineWith "..." then reader.leaveBlocks.map (take 3 .documentEnd)
  else if c == '[' then reader.openFlow .flowSequence
  else if c == '\x7b' then reader.openFlow .flowMapping
  else if c == ']' then reader.closeFlow .flowSequenceEnd
  else if c == '\x7d' then reader.closeFlow .flowMappingEnd
  else if c == ',' then reader.flowEntry
  else if c == '-' && alone then reader.blockEntry
  else if c == '?' && (reader.inFlow || alone) then reader.keyMark
  else if c == ':' && (reader.inFlow || alone) then reader.valueMark
  else if c == '*' then reader.nameToken .alias
  else if c == '&' then reader.nameToken .anchor
  else if c == '!' then reader.tagToken
  else if c == '|' && !reader.inFlow then reader.blockScalar false bound
  else if c == '>' && !reader.inFlow then reader.blockScalar true bound
  else if c == '\'' || c == '"' then reader.quotedScalar c bound
  else if startsPlain reader.inFlow c rest then reader.plainScalar bound
  else none

def finish (reader : TokenReader) : Option (List Token) := do
  let reader ← reader.leaveBlocks
  some (reader.push .streamEnd).tokens.reverse

/-- The tokens of the text. Each takes a character or more, so neither their number nor the length of
one meets a bound beyond the length of the text. -/
def run (reader : TokenReader) : Nat → Option (List Token)
  | 0 => none
  | bound + 1 => do
    let reader ← reader.toNextToken
    match reader.place.rest with
    | [] => reader.finish
    | c :: rest => run (← reader.readToken c rest (bound + 1)) bound

end TokenReader

def startPlace (text : Text) : Place :=
  let place : Place := { rest := text }
  if place.head? == some '\ufeff' then place.drop 1 else place

def tokens? (text : Text) : Option (List Token) :=
  if text.all isAllowed then
    TokenReader.run { place := startPlace text } (text.length + 2)
  else none

end CqlSchema.Yaml

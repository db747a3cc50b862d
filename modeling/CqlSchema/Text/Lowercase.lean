import CqlSchema.Text.LetterCase

/-! Lowercase text by the full Unicode mapping. Two characters need more than their own partner:
a dotted capital I becomes two characters, and a capital sigma at the end of a word has a form of
its own. -/
namespace CqlSchema.Text

def isCased (c : Char) : Bool := casedRanges.holds c

def isCaseIgnorable (c : Char) : Bool := caseIgnorableRanges.holds c

def lowercasePartner (c : Char) : Char :=
  if c.toNat < 128 then c.toLower
  else match lowercaseRuns.find? (·.holds c) with
    | some run => Char.ofNat (c.toNat + run.distance).toNat
    | none => c

def reachesCased (text : Text) : Bool :=
  match text.dropWhile isCaseIgnorable with
  | [] => false
  | c :: _ => isCased c

/-- `c` between the text `before` it, nearest character first, and the text `after` it. -/
def lowercaseAt (before : Text) (c : Char) (after : Text) : Text :=
  if c = '\u03a3' then
    [if reachesCased before && !reachesCased after then '\u03c2' else '\u03c3']
  else if c = '\u0130' then ['i', '\u0307']
  else [lowercasePartner c]

def lowercaseAfter (before : Text) : Text → Text
  | [] => []
  | c :: rest => lowercaseAt before c rest ++ lowercaseAfter (c :: before) rest

def lowercase (text : Text) : Text := lowercaseAfter [] text

end CqlSchema.Text

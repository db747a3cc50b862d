import CqlSchema.Text.Basic

/-! Words in order, and a search among them. Each step asks the word in the middle and goes on in
the half where the wanted one would stand, so words that are out of order may be missed. -/
namespace CqlSchema.Text

/-- Order by the first character in which two words differ. A word stands before those it begins. -/
def precedes : Text → Text → Bool
  | _, [] => false
  | [], _ :: _ => true
  | c :: rest, d :: more => c.toNat < d.toNat || c == d && precedes rest more

def searchWithin (word : Text) : Nat → List Text → Bool
  | 0, _ => false
  | steps + 1, words =>
    let half := words.length / 2
    match words.drop half with
    | [] => false
    | middle :: above =>
      if word = middle then true
      else if precedes word middle then searchWithin word steps (words.take half)
      else searchWithin word steps above

/-- Whether the word is found. No search takes more steps than there are words. -/
def search (words : List Text) (word : Text) : Bool := searchWithin word words.length words

end CqlSchema.Text

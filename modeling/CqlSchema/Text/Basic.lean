/-! Text as it is written out: a list of characters, taken apart and put together in front.
Names and string values are kept as `String`. -/
namespace CqlSchema

abbrev Text := List Char

namespace Text

def joined (separator : Text) : List Text → Text
  | [] => []
  | part :: rest => part ++ rest.flatMap (separator ++ ·)

@[simp] theorem joinedNil (separator : Text) : joined separator [] = [] := rfl

@[simp] theorem joinedSingleton (separator part : Text) : joined separator [part] = part := by
  simp [joined]

theorem joinedConsCons (separator first second : Text) (rest : List Text) :
    joined separator (first :: second :: rest)
      = first ++ separator ++ joined separator (second :: rest) := by
  simp [joined]

/-- The text with `A` to `Z` as `a` to `z` and every other character as it is. -/
def foldCase (text : Text) : Text := text.map Char.toLower

/-- Equality that does not tell `A` to `Z` from `a` to `z`. -/
def sameLetters (first second : String) : Bool := foldCase first.toList == foldCase second.toList

theorem sameLettersIff (first second : String) :
    sameLetters first second = true ↔ foldCase first.toList = foldCase second.toList := by
  simp [sameLetters]

end Text
end CqlSchema

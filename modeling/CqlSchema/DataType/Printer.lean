import CqlSchema.DataType.Basic
import CqlSchema.Name

/-! The text of a type. -/
namespace CqlSchema.DataType

/-- The name of a defined type: what stands before its first point names the keyspace. -/
def definedName (name : String) : QualifiedName :=
  let characters := name.toList
  match characters.dropWhile (· != '.') with
  | [] => ⟨none, name⟩
  | _ :: rest => ⟨some (String.ofList (characters.takeWhile (· != '.'))), String.ofList rest⟩

mutual

def text : DataType → Text
  | native type => type.name.toList
  | list element => "list<".toList ++ text element ++ ['>']
  | set element => "set<".toList ++ text element ++ ['>']
  | map key value => "map<".toList ++ text key ++ ", ".toList ++ text value ++ ['>']
  | tuple elements => "tuple<".toList ++ Text.joined ", ".toList (texts elements) ++ ['>']
  | frozen inner => "frozen<".toList ++ text inner ++ ['>']
  | defined name => (definedName name).text

def texts : List DataType → List Text
  | [] => []
  | type :: rest => text type :: texts rest

end

@[simp] theorem textNative (type : NativeType) : text (native type) = type.name.toList := by
  rw [text.eq_def]

@[simp] theorem textList (element : DataType) :
    text (list element) = "list<".toList ++ text element ++ ['>'] := by rw [text.eq_def]

@[simp] theorem textSet (element : DataType) :
    text (set element) = "set<".toList ++ text element ++ ['>'] := by rw [text.eq_def]

@[simp] theorem textMap (key value : DataType) :
    text (map key value) = "map<".toList ++ text key ++ ", ".toList ++ text value ++ ['>'] := by
  rw [text.eq_def]

@[simp] theorem textTuple (elements : List DataType) :
    text (tuple elements) =
      "tuple<".toList ++ Text.joined ", ".toList (texts elements) ++ ['>'] := by rw [text.eq_def]

@[simp] theorem textFrozen (inner : DataType) :
    text (frozen inner) = "frozen<".toList ++ text inner ++ ['>'] := by rw [text.eq_def]

@[simp] theorem textDefined (name : String) : text (defined name) = (definedName name).text := by
  rw [text.eq_def]

end CqlSchema.DataType

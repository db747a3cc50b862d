import CqlSchema.DataType.Parser

/-! The grammar of types as a relation between texts and trees. No rule looks at what stands behind
its text and none prefers a longer match, so agreement with the reader is a statement about both.
A tree is readable if some text denotes it; which trees those are is said without the grammar. -/
namespace CqlSchema.DataType

def Blanks (text : Text) : Prop := ∀ c ∈ text, Text.isBlank c = true

/-- A part of a name as written, and what it spells. -/
inductive Segment : Text → Text → Prop where
  | word {word : Text} (filled : word ≠ []) (plain : ∀ c ∈ word, isWordChar c = true) :
      Segment word word
  | quoted (content : Text) : Segment (Text.enclosed '"' content) content

inductive Spelling : Text → Text → Prop where
  | last {written content} (segment : Segment written content) : Spelling written content
  | dotted {written content rest name} (segment : Segment written content)
      (more : Spelling rest name) : Spelling (written ++ '.' :: rest) (content ++ '.' :: name)

def key (spelled : Text) : String := String.ofList (Text.lowercase spelled)

def constructorWords : List String := ["list", "set", "map", "tuple", "frozen"]

def typeWords : List String := NativeType.all.map NativeType.name ++ constructorWords

/-- What a name stands for, alone or with arguments. -/
inductive Denotes (spelled : Text) : Option (List DataType) → DataType → Prop where
  | list {element} (word : key spelled = "list") : Denotes spelled (some [element]) (list element)
  | set {element} (word : key spelled = "set") : Denotes spelled (some [element]) (set element)
  | frozen {inner} (word : key spelled = "frozen") : Denotes spelled (some [inner]) (frozen inner)
  | map {first second} (word : key spelled = "map") :
      Denotes spelled (some [first, second]) (map first second)
  | tuple {first rest} (word : key spelled = "tuple") :
      Denotes spelled (some (first :: rest)) (tuple (first :: rest))
  | native {type : NativeType} (word : key spelled = type.name) : Denotes spelled none (native type)
  | defined (free : key spelled ∉ typeWords) :
      Denotes spelled none (defined (String.ofList spelled))

mutual

inductive Derives : Text → DataType → Prop where
  | plain {before written spelled behind type} (leading : Blanks before)
      (name : Spelling written spelled) (trailing : Blanks behind)
      (meaning : Denotes spelled none type) : Derives (before ++ written ++ behind) type
  | applied {before written spelled behind body first arguments rest type}
      (leading : Blanks before) (name : Spelling written spelled) (trailing : Blanks behind)
      (head : Derives body first) (tail : DerivesMore arguments rest)
      (meaning : Denotes spelled (some (first :: rest)) type) :
      Derives (before ++ written ++ behind ++ '<' :: (body ++ arguments)) type

/-- The arguments behind the first one, with the closing bracket. -/
inductive DerivesMore : Text → List DataType → Prop where
  | close {before} (leading : Blanks before) : DerivesMore (before ++ ['>']) []
  | next {before body type arguments rest} (leading : Blanks before) (head : Derives body type)
      (tail : DerivesMore arguments rest) :
      DerivesMore (before ++ ',' :: (body ++ arguments)) (type :: rest)

end

def DerivesText (text : Text) (type : DataType) : Prop :=
  ∃ body behind, text = body ++ behind ∧ Derives body type ∧ Blanks behind

theorem blanksNil : Blanks [] := by simp [Blanks]

theorem segmentFilled {written content} (segment : Segment written content) : written ≠ [] := by
  cases segment with
  | word filled plain => exact filled
  | quoted content => simp [Text.enclosed]

theorem spellingFilled {written spelled} (name : Spelling written spelled) : written ≠ [] := by
  cases name with
  | last segment => exact segmentFilled segment
  | dotted segment more => simp

theorem derivesFilled {text type} (derivation : Derives text type) : text ≠ [] := by
  cases derivation with
  | plain leading name trailing meaning => simp [spellingFilled name]
  | applied leading name trailing head tail meaning => simp

theorem memNativeAll (type : NativeType) : type ∈ NativeType.all := by cases type <;> decide

theorem memTypeWords {name : String} :
    name ∈ typeWords ↔ (∃ type : NativeType, type.name = name) ∨ name ∈ constructorWords := by
  simp [typeWords, memNativeAll]

theorem ofNameNone {name : String} :
    NativeType.ofName? name = none ↔ ∀ type : NativeType, type.name ≠ name := by
  simp [NativeType.ofName?, memNativeAll]

end CqlSchema.DataType

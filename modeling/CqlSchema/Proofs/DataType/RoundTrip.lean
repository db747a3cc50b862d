import CqlSchema.DataType.Printer
import CqlSchema.Proofs.DataType.Reading
import CqlSchema.Proofs.Name

/-! The text of a type read back. It derives its tree exactly if no tuple is empty and no defined
type has taken the name of a built-in one, and the reader gives no other trees. -/
namespace CqlSchema.DataType

mutual

/-- No tuple is empty and no name of a defined type means another type. -/
def Readable : DataType → Prop
  | native _ => True
  | list type | set type | frozen type => Readable type
  | map first second => Readable first ∧ Readable second
  | tuple elements => elements ≠ [] ∧ ReadableAll elements
  | defined name => key name.toList ∉ typeWords

def ReadableAll : List DataType → Prop
  | [] => True
  | type :: rest => Readable type ∧ ReadableAll rest

end

theorem plainCharWord {c : Char} (plain : Name.isPlainChar c = true) : isWordChar c = true := by
  simp only [Name.isPlainChar, Bool.or_eq_true] at plain
  simp only [isWordChar, Char.isAlphanum, Char.isAlpha, Bool.or_eq_true]
  tauto

theorem segmentName (name : String) : Segment (Name.text name) name.toList := by
  unfold Name.text
  split
  · rename_i plain
    simp only [Bool.and_eq_true] at plain
    exact .word (Name.plainFilled plain.1) fun c inside =>
      plainCharWord (Name.plainChars plain.1 c inside)
  · exact .quoted name.toList

theorem spellingDefined (name : String) : Spelling (definedName name).text name.toList := by
  unfold definedName
  simp only
  split
  · exact .last (segmentName name)
  · rename_i point rest split
    have first : point = '.' := by
      have stopped := List.head?_dropWhile_not (· != '.') name.toList
      rw [split] at stopped
      simpa using stopped
    have whole := List.takeWhile_append_dropWhile (p := (· != '.')) (l := name.toList)
    rw [split, first] at whole
    have spelled := Spelling.dotted (segmentName (String.ofList (name.toList.takeWhile (· != '.'))))
      (.last (segmentName (String.ofList rest)))
    simpa [QualifiedName.text, whole] using spelled

theorem keyNative (type : NativeType) : key type.name.toList = type.name := by
  cases type <;> rfl

theorem spellingWord {word : Text} (filled : word ≠ [])
    (small : word.all isWordChar = true) : Spelling word word :=
  .last (.word filled (List.all_eq_true.mp small))

theorem spellingNative (type : NativeType) : Spelling type.name.toList type.name.toList := by
  cases type <;> exact spellingWord (by decide) (by decide)

theorem derivesBlank {text type blanks} (derivation : Derives text type) (all : Blanks blanks) :
    Derives (blanks ++ text) type := by
  have longer : ∀ {before}, Blanks before → Blanks (blanks ++ before) := by
    intro before leading c inside
    exact (List.mem_append.mp inside).elim (all c) (leading c)
  cases derivation with
  | plain leading name trailing meaning =>
    simpa using Derives.plain (longer leading) name trailing meaning
  | applied leading name trailing head tail meaning =>
    simpa using Derives.applied (longer leading) name trailing head tail meaning

theorem derivesApplied {word body arguments : Text} {first rest type}
    (meaning : Denotes word (some (first :: rest)) type) (filled : word ≠ [])
    (small : word.all isWordChar = true) (head : Derives body first)
    (tail : DerivesMore arguments rest) : Derives (word ++ '<' :: (body ++ arguments)) type := by
  simpa using Derives.applied blanksNil (spellingWord filled small) blanksNil head tail meaning

theorem derivesNext {body arguments : Text} {type rest} (head : Derives body type)
    (tail : DerivesMore arguments rest) :
    DerivesMore (", ".toList ++ body ++ arguments) (type :: rest) := by
  have space : Blanks [' '] := by simp [Blanks]; decide
  simpa using DerivesMore.next blanksNil (derivesBlank head space) tail

theorem derivesClose : DerivesMore ['>'] [] := .close blanksNil

mutual

theorem derivesOwnText (type : DataType) (readable : type.Readable) : Derives type.text type := by
  cases type with
  | native type =>
    have meaning : Denotes type.name.toList none (native type) := .native (keyNative type)
    simpa using Derives.plain blanksNil (spellingNative type) blanksNil meaning
  | list element =>
    have meaning : Denotes "list".toList (some [element]) (list element) := .list rfl
    have head := derivesOwnText element readable
    simpa using derivesApplied meaning (by decide) (by decide) head derivesClose
  | set element =>
    have meaning : Denotes "set".toList (some [element]) (set element) := .set rfl
    have head := derivesOwnText element readable
    simpa using derivesApplied meaning (by decide) (by decide) head derivesClose
  | frozen inner =>
    have meaning : Denotes "frozen".toList (some [inner]) (frozen inner) := .frozen rfl
    have head := derivesOwnText inner readable
    simpa using derivesApplied meaning (by decide) (by decide) head derivesClose
  | map first second =>
    have meaning : Denotes "map".toList (some [first, second]) (map first second) := .map rfl
    have head := derivesOwnText first readable.1
    have tail := derivesNext (derivesOwnText second readable.2) derivesClose
    simpa using derivesApplied meaning (by decide) (by decide) head tail
  | tuple elements =>
    cases elements with
    | nil => exact absurd rfl readable.1
    | cons first rest =>
      have meaning : Denotes "tuple".toList (some (first :: rest)) (tuple (first :: rest)) :=
        .tuple rfl
      have head := derivesOwnText first readable.2.1
      have tail := derivesOwnTexts rest readable.2.2
      simpa [texts, Text.joined] using
        derivesApplied meaning (by decide) (by decide) head tail
  | defined name =>
    have meaning : Denotes name.toList none (defined (String.ofList name.toList)) :=
      .defined readable
    simpa using Derives.plain blanksNil (spellingDefined name) blanksNil meaning

theorem derivesOwnTexts (types : List DataType) (readable : ReadableAll types) :
    DerivesMore ((texts types).flatMap (", ".toList ++ ·) ++ ['>']) types := by
  cases types with
  | nil => exact derivesClose
  | cons type rest =>
    have head := derivesOwnText type readable.1
    have tail := derivesOwnTexts rest readable.2
    simpa [texts] using derivesNext head tail

end

theorem denotesReadable {spelled type} (meaning : Denotes spelled none type) : type.Readable := by
  cases meaning with
  | native word => trivial
  | defined free => simpa [Readable] using free

theorem appliedReadable {spelled arguments type} (meaning : Denotes spelled (some arguments) type)
    (readable : ReadableAll arguments) : type.Readable := by
  cases meaning with
  | list word | set word | frozen word => exact readable.1
  | map word => exact ⟨readable.1, readable.2.1⟩
  | tuple word => exact ⟨by simp, readable⟩

mutual

theorem derivedReadable : ∀ {text type}, Derives text type → type.Readable
  | _, _, .plain _ _ _ meaning => denotesReadable meaning
  | _, _, .applied _ _ _ head tail meaning =>
    appliedReadable meaning ⟨derivedReadable head, derivedMoreReadable tail⟩

theorem derivedMoreReadable : ∀ {text types}, DerivesMore text types → ReadableAll types
  | _, _, .close _ => trivial
  | _, _, .next _ head tail => ⟨derivedReadable head, derivedMoreReadable tail⟩

end

theorem parsedReadable {input : String} {type : DataType} (read : parse input = .ok type) :
    type.Readable := by
  obtain ⟨written, behind, whole, derivation, blank⟩ := ofTextExact.mp (parseOk.mp read)
  exact derivedReadable derivation

theorem parseOwnText {type : DataType} (readable : type.Readable) :
    parse (String.ofList type.text) = .ok type := by
  rw [parseOk, String.toList_ofList, ofTextExact]
  exact ⟨type.text, [], by simp, derivesOwnText type readable, blanksNil⟩

theorem readOwnText {type : DataType} (readable : type.Readable) (depth : Nat)
    (deep : type.text.length < depth) {behind : Text} (follows : Follows behind) :
    ∃ rest, readType depth (type.text ++ behind) = .ok (type, rest) := by
  obtain ⟨rest, read, -⟩ := readTypeWritten (derivesOwnText type readable) depth deep follows
  exact ⟨rest, read⟩

theorem settledText {first second : DataType} (left : first.Readable) (right : second.Readable) :
    Text.Settled Follows first.text second.text (first = second) := by
  intro r s before after whole
  let depth := first.text.length + second.text.length + 1
  obtain ⟨rest, read⟩ := readOwnText left depth (by omega) before
  obtain ⟨other, again⟩ := readOwnText right depth (by omega) after
  rw [whole, again] at read
  cases read
  exact ⟨rfl, List.append_cancel_left whole⟩

theorem textReadBackIffReadable :
    (∀ type : DataType, parse (String.ofList type.text) = .ok type ↔ type.Readable) ∧
    ∀ (input : String) (type : DataType), parse input = .ok type →
      type.Readable ∧ parse (String.ofList type.text) = .ok type := by
  refine ⟨fun type => ⟨parsedReadable, parseOwnText⟩, fun input type read => ?_⟩
  have readable := parsedReadable read
  exact ⟨readable, parseOwnText readable⟩

theorem quotedNameInTupleReadBack :
    let type := map (defined "Shop.a\"b") (tuple [native .int, native .text])
    parse "Map< \"Shop\".\"a\"\"b\", tuple< INT ,Text>>" = .ok type ∧
      type.Readable ∧ parse (String.ofList type.text) = .ok type := by
  have read : parse "Map< \"Shop\".\"a\"\"b\", tuple< INT ,Text>>" =
      .ok (map (defined "Shop.a\"b") (tuple [native .int, native .text])) := by cbv
  exact ⟨read, textReadBackIffReadable.2 _ _ read⟩

end CqlSchema.DataType

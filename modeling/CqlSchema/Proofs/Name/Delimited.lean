import CqlSchema.Proofs.Name
import CqlSchema.Proofs.Name.Meaning
import CqlSchema.Proofs.Text.Sorted

/-! When a name stands without quotes, and that the text of a name shows where it ends and denotes
that name. -/
namespace CqlSchema

namespace Text

theorem doubledLength (quote : Char) (content : Text) :
    content.length ≤ (doubled quote content).length := by
  induction content with
  | nil => exact Nat.le_refl _
  | cons c rest ih =>
    rw [doubled]
    split
    · simp only [List.length_cons]
      omega
    · simp only [List.length_cons]
      omega

theorem enclosedApart (quote : Char) (content : Text) : enclosed quote content ≠ content := by
  intro same
  have size := congrArg List.length same
  have longer := doubledLength quote content
  simp only [enclosed, List.length_cons, List.length_append, List.length_nil] at size
  omega

end Text

namespace Name

theorem reservedInOrder : Text.InOrder (reservedWords.map String.toList) := by
  rw [Text.InOrder]
  decide

theorem reservedSmall : ∀ word ∈ reservedWords, Text.foldCase word.toList = word.toList := by
  decide

theorem reservedIff (name : String) :
    isReserved name = true ↔ ∃ word ∈ reservedWords, Text.sameLetters word name = true := by
  rw [isReserved, Text.searchIff reservedInOrder, List.mem_map]
  constructor
  · intro found
    obtain ⟨word, inside, same⟩ := found
    have alike := (reservedSmall word inside).trans same
    exact ⟨word, inside, (Text.sameLettersIff word name).mpr alike⟩
  · intro found
    obtain ⟨word, inside, alike⟩ := found
    have same := (Text.sameLettersIff word name).mp alike
    rw [reservedSmall word inside] at same
    exact ⟨word, inside, same⟩

theorem reservedPlain {name : String} (plain : isPlain name.toList = true) :
    isReserved name = true ↔ name ∈ reservedWords := by
  rw [isReserved, Text.searchIff reservedInOrder, smallWord (plainChars plain), List.mem_map]
  simp only [String.toList_inj, exists_eq_right]

theorem plainIff (text : Text) :
    isPlain text = true ↔ ∃ first rest, text = first :: rest ∧ first.isLower = true ∧
      ∀ c ∈ rest, c.isLower = true ∨ c.isDigit = true ∨ c = '_' := by
  cases text with
  | nil => simp [isPlain]
  | cons first rest => simp [isPlain, isPlainChar, or_assoc]

theorem unquotedIff (name : String) :
    text name = name.toList ↔ isPlain name.toList = true ∧ name ∉ reservedWords := by
  have stands : text name = name.toList ↔ (isPlain name.toList && !isReserved name) = true := by
    rw [text]
    split
    · rename_i plain
      exact iff_of_true rfl plain
    · rename_i unfit
      exact iff_of_false (Text.enclosedApart _ _) unfit
  rw [stands, Bool.and_eq_true, Bool.not_eq_true']
  refine and_congr_right fun plain => ?_
  rw [← reservedPlain plain, Bool.not_eq_true]

theorem quotedElse {name : String} (quoted : text name ≠ name.toList) :
    text name = Text.enclosed '"' name.toList := by
  rw [text] at quoted ⊢
  split at quoted
  · exact absurd rfl quoted
  · rename_i unfit
    rw [if_neg unfit]

end Name

/-- Behind a name stands no double quote, point, small letter, digit or underscore. Then the text of
the name shows where it ends and which name it is. -/
theorem namesDelimitedAndMeant :
    (∀ (first second : QualifiedName) (r s : Text), Text.Avoids QualifiedName.continues r →
      Text.Avoids QualifiedName.continues s → first.text ++ r = second.text ++ s →
      first.keyspace = second.keyspace ∧ first.name = second.name ∧ r = s) ∧
    (∀ name : String,
      (Name.text name = name.toList ↔
        (∃ first rest, name.toList = first :: rest ∧ first.isLower = true ∧
          ∀ c ∈ rest, c.isLower = true ∨ c.isDigit = true ∨ c = '_') ∧
        name ∉ Name.reservedWords) ∧
      (Name.text name ≠ name.toList → Name.text name = Text.enclosed '"' name.toList) ∧
      (Name.isReserved name = true ↔
        ∃ word ∈ Name.reservedWords, Text.sameLetters word name = true) ∧
      Name.denoted? (Name.text name) = some name) ∧
    (∀ name : QualifiedName, QualifiedName.denoted? name.text = some name) ∧
    ∀ first second : String,
      Name.denoted? (Name.text first) = Name.denoted? (Name.text second) → first = second := by
  refine ⟨?_, fun name => ⟨?_, Name.quotedElse, Name.reservedIff name, Name.denotedText name⟩,
    QualifiedName.denotedText, ?_⟩
  · intro first second r s left right whole
    obtain ⟨same, tails⟩ := QualifiedName.settledText first second r s left right whole
    exact ⟨congrArg QualifiedName.keyspace same, congrArg QualifiedName.name same, tails⟩
  · rw [Name.unquotedIff, Name.plainIff]
  · intro first second same
    rw [Name.denotedText, Name.denotedText] at same
    exact Option.some.inj same

/-- The point inside the keyspace does not end it, and the reserved word is quoted. -/
theorem pointedKeyspaceDelimited :
    let first : QualifiedName := ⟨some "a.b", "order"⟩
    let second : QualifiedName := ⟨some (String.ofList ['a', '.', 'b']), "order"⟩
    let behind := " (\"x\" int)".toList
    Text.Avoids QualifiedName.continues behind ∧
      first.text ++ behind = "\"a.b\".\"order\" (\"x\" int)".toList ∧
      first.text ++ behind = second.text ++ behind ∧ first.keyspace = second.keyspace ∧
      Name.text "order" = Text.enclosed '"' "order".toList := by
  intro first second behind
  have ends : Text.Avoids QualifiedName.continues behind := by
    intro c start
    cases start
    rfl
  have written : first.text ++ behind = "\"a.b\".\"order\" (\"x\" int)".toList := by decide
  have whole : first.text ++ behind = second.text ++ behind := by decide
  obtain ⟨delimited, quoted, -, -⟩ := namesDelimitedAndMeant
  exact ⟨ends, written, whole, (delimited first second behind behind ends ends whole).1,
    (quoted "order").2.1 (by decide)⟩

end CqlSchema

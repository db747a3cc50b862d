import CqlSchema.Proofs.DataType.RoundTrip
import CqlSchema.Proofs.Text.Pieces

/-! What an identifier denotes to a reader of statements: a quoted one what stands between its
quotes, another one its own letters, capital ones as small ones. A point outside quotes stands
between keyspace and name. The text of a name denotes that name. -/
namespace CqlSchema

namespace Name

def denoted? : Text → Option String
  | [] => none
  | c :: rest =>
    if c = '"' then
      match Text.readEnclosed '"' rest with
      | some (content, []) => some (String.ofList content)
      | _ => none
    else if c.isAlpha && rest.all DataType.isWordChar &&
        !isReserved (String.ofList (c :: rest)) then
      some (String.ofList (Text.foldCase (c :: rest)))
    else none

theorem denotedQuoted (content : Text) :
    denoted? (Text.enclosed '"' content) = some (String.ofList content) := by
  have read : Text.readEnclosed '"' (Text.doubled '"' content ++ ['"']) = some (content, []) :=
    Text.readEnclosedDoubled '"' content [] (by simp)
  simp [denoted?, Text.enclosed, read]

theorem smallPlain {c : Char} (plain : isPlainChar c = true) : c.toLower = c := by
  have small : ¬(c.val ≥ 'A'.val ∧ c.val ≤ 'Z'.val) := by
    intro capital
    have low := UInt32.le_iff_toNat_le.mp capital.1
    have high := UInt32.le_iff_toNat_le.mp capital.2
    simp only [isPlainChar, Char.isLower, Char.isDigit, Bool.or_eq_true, Bool.and_eq_true,
      decide_eq_true_eq, beq_iff_eq, UInt32.le_iff_toNat_le, ge_iff_le] at plain
    simp at low high
    rcases plain with (letter | digit) | rfl
    · have above := letter.1
      simp at above
      omega
    · have below := digit.2
      simp at below
      omega
    · simp at high
  rw [Char.toLower, dif_neg small]

theorem smallWord {word : Text} (plain : ∀ c ∈ word, isPlainChar c = true) :
    Text.foldCase word = word :=
  (List.map_congr_left fun c inside => smallPlain (plain c inside)).trans (List.map_id _)

theorem denotedText (name : String) : denoted? (text name) = some name := by
  unfold text
  split
  · rename_i plain
    simp only [Bool.and_eq_true, Bool.not_eq_true'] at plain
    obtain ⟨plain, free⟩ := plain
    have small := smallWord (plainChars plain)
    have word := String.ofList_toList (s := name)
    cases shape : name.toList with
    | nil => simp [shape, isPlain] at plain
    | cons c rest =>
      rw [shape] at plain small word
      rw [isPlain, Bool.and_eq_true] at plain
      have letter : c.isAlpha = true := by simp [Char.isAlpha, plain.1]
      have unquoted : c ≠ '"' := Text.classApart plain.1 rfl
      have chars : rest.all DataType.isWordChar = true :=
        List.all_eq_true.mpr fun d inside =>
          DataType.plainCharWord (List.all_eq_true.mp plain.2 d inside)
      rw [denoted?, if_neg unquoted, if_pos (by simp [letter, chars, word, free]), small, word]
  · rw [denotedQuoted, String.ofList_toList]

theorem keptText (name : String) : Text.Kept isPlainChar (text name) := by
  unfold text
  split
  · rename_i plain
    rw [Bool.and_eq_true] at plain
    exact Text.keptUnquoted (plainChars plain.1) rfl rfl
  · exact Text.keptEnclosed rfl _

end Name

namespace QualifiedName

def denoted? (text : Text) : Option QualifiedName :=
  match Text.cut? .flat ['.'] none 0 text with
  | none => (Name.denoted? text).map fun name => ⟨none, name⟩
  | some (keyspace, name) =>
    match Name.denoted? keyspace, Name.denoted? name with
    | some keyspace, some name => some ⟨some keyspace, name⟩
    | _, _ => none

theorem namePasses (name : String) {ends : Text → Prop} :
    Text.Passes .flat ['.'] 0 ends (Name.text name) :=
  Text.passesFirst (Name.keptText name) rfl rfl fun _ => rfl

theorem denotedText (name : QualifiedName) : denoted? name.text = some name := by
  obtain ⟨keyspace, name⟩ := name
  cases keyspace with
  | none =>
    have passes : Text.Passes .flat ['.'] 0 (fun _ => True) (Name.text name) := namePasses name
    have uncut := Text.cutNone passes trivial
    rw [QualifiedName.text, denoted?, uncut, Name.denotedText]
    rfl
  | some keyspace =>
    have passes : Text.Passes .flat ['.'] 0 (fun _ => True) (Name.text keyspace) :=
      namePasses keyspace
    have cut : Text.cut? .flat ['.'] none 0 (Name.text keyspace ++ (['.'] ++ Name.text name)) =
        some (Name.text keyspace, Name.text name) := Text.cutBehind (by simp) passes trivial
    have whole : QualifiedName.text ⟨some keyspace, name⟩ =
        Name.text keyspace ++ (['.'] ++ Name.text name) := rfl
    rw [whole, denoted?, cut]
    simp only [Name.denotedText]

end QualifiedName
end CqlSchema

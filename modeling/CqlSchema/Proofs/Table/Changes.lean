import CqlSchema.Proofs.Table.Columns

/-! What the text of a change of a table tells: which change it is, and all of it. -/
namespace CqlSchema.ColumnChange

def types : ColumnChange → List DataType
  | alter _ type | add _ type => [type]
  | drop _ | rename _ _ => []

def word : ColumnChange → Text
  | alter _ _ => "ALTER ".toList
  | add _ _ => "ADD ".toList
  | drop _ => "DROP ".toList
  | rename _ _ => "RENAME ".toList

theorem textWord (change : ColumnChange) : ∃ rest, change.text = change.word ++ rest := by
  unfold text
  cases change with
  | alter _ _ | add _ _ | drop _ | rename _ _ =>
    simp only [List.append_assoc]
    exact ⟨_, rfl⟩

theorem settledWords {ends : Text → Prop} {first second : ColumnChange} {same : Prop}
    (clash : Text.differ first.word second.word = true) :
    Text.Settled ends first.text second.text same := by
  intro r s _ _ whole
  obtain ⟨rest, shape⟩ := first.textWord
  obtain ⟨more, other⟩ := second.textWord
  rw [shape, other, List.append_assoc, List.append_assoc] at whole
  exact absurd whole (Text.differApart clash _ _)

theorem settledTyped (words : Text) (column other : String) {type type' : DataType}
    (space : ∀ r, Text.Avoids Name.continues (words ++ r))
    (left : type.Readable) (right : type'.Readable) :
    Text.Settled DataType.Follows (Name.text column ++ (words ++ type.text))
      (Name.text other ++ (words ++ type'.text)) (column = other ∧ type = type') := by
  have types := Text.settledBehind words (DataType.settledText left right)
  refine Text.settledAppend (Name.settledText column other) (fun _ => types) ?_ ?_
  · exact fun r _ => by simpa using space _
  · exact fun r _ => by simpa using space _

theorem settledText {first second : ColumnChange} (left : ∀ type ∈ first.types, type.Readable)
    (right : ∀ type ∈ second.types, type.Readable) :
    Text.Settled DataType.Follows first.text second.text (first = second) := by
  cases first with
  | alter column type =>
    cases second with
    | alter other type' =>
      have both := settledTyped " TYPE ".toList column other
        (fun r => Text.avoidsFirst rfl rfl)
        (left type (by simp [types])) (right type' (by simp [types]))
      unfold text
      simp only [List.append_assoc]
      refine Text.settledImp (Text.settledBehind _ both) fun same => ?_
      rw [same.1, same.2]
    | add _ _ | drop _ | rename _ _ => exact settledWords rfl
  | add column type =>
    cases second with
    | add other type' =>
      unfold text
      simp only [List.append_assoc]
      have both := settledTyped [' '] column other (fun r => Text.avoidsFirst rfl rfl)
        (left type (by simp [types])) (right type' (by simp [types]))
      refine Text.settledImp (Text.settledBehind _ both) fun same => ?_
      rw [same.1, same.2]
    | alter _ _ | drop _ | rename _ _ => exact settledWords rfl
  | drop column =>
    cases second with
    | drop other =>
      have names := Text.settledMono (Name.settledText column other) fun r => followsName
      exact Text.settledImp (Text.settledBehind _ names) (congrArg drop)
    | alter _ _ | add _ _ | rename _ _ => exact settledWords rfl
  | rename old new =>
    cases second with
    | rename other word =>
      have names := Text.settledMono (Name.settledText new word) fun r => followsName
      have both := Text.settledAppend (Name.settledText old other)
        (fun _ => Text.settledBehind " TO ".toList names)
        (fun r _ => Text.avoidsFirst rfl rfl) (fun r _ => Text.avoidsFirst rfl rfl)
      unfold text
      simp only [List.append_assoc]
      refine Text.settledImp (Text.settledBehind _ both) fun same => ?_
      rw [same.1, same.2]
    | alter _ _ | add _ _ | drop _ => exact settledWords rfl

end CqlSchema.ColumnChange

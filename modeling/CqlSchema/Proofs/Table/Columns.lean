import CqlSchema.Proofs.DataType.RoundTrip
import CqlSchema.Proofs.Name
import CqlSchema.Table.Alteration
import CqlSchema.Table.Printer

/-! What the text of a table or of its changes tells: the columns with their types, the key, the
order of the clustering columns, and each change. -/
namespace CqlSchema

theorem followsChar {c : Char} {rest : Text} (solid : Text.isBlank c = false)
    (ends : DataType.extendsName c = false) (opens : c ≠ '<') : DataType.Follows (c :: rest) := by
  refine ⟨(Text.avoidsCons ..).mpr ends, ?_⟩
  simpa [Text.skipBlanksCons c solid rest] using opens

theorem commaFollows (rest : Text) : DataType.Follows (", ".toList ++ rest) :=
  followsChar (by decide) (by decide) (by decide)

theorem followsName {text : Text} (follows : DataType.Follows text) :
    Text.Avoids Name.continues text := by
  refine Text.avoidsMono (fun c goes => ?_) follows.1
  simp only [Name.continues, Bool.or_eq_true] at goes
  rcases goes with plain | quote
  · simp [DataType.extendsName, DataType.plainCharWord plain]
  · simp [DataType.extendsName, quote]

namespace Table

theorem commaEndsName (r : Text) : Text.Avoids Name.continues (", ".toList ++ r) :=
  Text.avoidsFirst rfl rfl

theorem bracketEndsName {r : Text} (closes : r.head? = some ')') :
    Text.Avoids Name.continues r := Text.avoidsFirst closes rfl

theorem settledColumnItem {first second : Column} (left : first.type.Readable)
    (right : second.type.Readable) :
    Text.Settled DataType.Follows (columnItem first) (columnItem second)
      ((first.name, first.type) = (second.name, second.type)) := by
  have types := Text.settledBehind [' '] (DataType.settledText left right)
  have both := Text.settledAppend (Name.settledText first.name second.name) (fun _ => types)
    (fun r _ => Text.avoidsFirst rfl rfl) (fun r _ => Text.avoidsFirst rfl rfl)
  refine Text.settledImp both fun same => ?_
  rw [same.1, same.2]

theorem settledNamed {β : Type} {written : Column → Text} {meaning : Column → β}
    {xs ys : List Column}
    (items : ∀ x y, Text.Settled (Text.Avoids Name.continues) (written x) (written y)
      (meaning x = meaning y))
    (named : ∀ x, ∃ rest, written x = Name.text x.name ++ rest) :
    Text.Settled (fun r => r.head? = some ')') (Text.joined ", ".toList (xs.map written))
      (Text.joined ", ".toList (ys.map written)) (xs.map meaning = ys.map meaning) := by
  refine Text.settledJoined (fun x _ y _ => items x y) ?_ ?_ ?_ ?_
  · exact commaEndsName
  · exact fun r => bracketEndsName
  · rintro x _ s closes rfl
    cases closes
  · intro x r s closes
    obtain ⟨rest, shape⟩ := named x
    rw [shape, List.append_assoc]
    exact Name.textApart x.name (Text.avoidsFirst closes rfl) (rest ++ s)

theorem settledColumnNames (first second : List Column) :
    Text.Settled (fun r => r.head? = some ')') (Text.joined ", ".toList (columnNames first))
      (Text.joined ", ".toList (columnNames second))
      (first.map (·.name) = second.map (·.name)) :=
  settledNamed (fun x y => Name.settledText x.name y.name) fun x => ⟨[], by simp⟩

theorem partitionSingle (column : Column) : partitionItem [column] = Name.text column.name := by
  simp [partitionItem, columnNames]

theorem partitionSeveral (first second : Column) (rest : List Column) :
    partitionItem (first :: second :: rest) =
      '(' :: (Text.joined ", ".toList (columnNames (first :: second :: rest)) ++ [')']) := by
  simp [partitionItem]

theorem partitionApart (name : String) (body r s : Text) : '(' :: body ++ r ≠ Name.text name ++ s :=
  Name.textApart name ((Text.avoidsCons ..).mpr (by decide)) s

theorem settledPartition {first second : List Column} (left : first ≠ []) (right : second ≠ []) :
    Text.Settled (Text.Avoids Name.continues) (partitionItem first) (partitionItem second)
      (first.map (·.name) = second.map (·.name)) := by
  match first, second with
  | [x], [y] =>
    rw [partitionSingle, partitionSingle]
    refine Text.settledImp (Name.settledText x.name y.name) fun same => ?_
    simp [same]
  | [x], y :: _ :: _ =>
    rw [partitionSingle, partitionSeveral]
    exact fun r s _ _ whole => absurd whole.symm (partitionApart x.name _ s r)
  | x :: _ :: _, [y] =>
    rw [partitionSingle, partitionSeveral]
    exact fun r s _ _ whole => absurd whole (partitionApart y.name _ r s)
  | _ :: _ :: _, _ :: _ :: _ =>
    rw [partitionSeveral, partitionSeveral]
    exact Text.settledBehind ['(']
      (Text.settledBefore [')'] (settledColumnNames _ _) fun r => rfl)

theorem settledPrimaryKey {partition partition' clustering clustering' : List Column}
    (left : partition ≠ []) (right : partition' ≠ []) {ends : Text → Prop} :
    Text.Settled ends (primaryKey partition clustering) (primaryKey partition' clustering')
      (partition.map (·.name) = partition'.map (·.name) ∧
        clustering.map (·.name) = clustering'.map (·.name)) := by
  have names : Text.Settled (fun r => r.head? = some ')')
      ((columnNames clustering).flatMap (", ".toList ++ ·))
      ((columnNames clustering').flatMap (", ".toList ++ ·))
      (clustering.map (·.name) = clustering'.map (·.name)) := by
    refine Text.settledMore (fun x _ y _ => Name.settledText x.name y.name) ?_ ?_ ?_
    · exact commaEndsName
    · exact fun r => bracketEndsName
    · rintro x _ s closes rfl
      cases closes
  have fits := Text.fitsMore commaEndsName fun r => bracketEndsName
  have both := Text.settledAppend (settledPartition left right) (fun _ => names) (fits _) (fits _)
  unfold primaryKey
  rw [List.append_assoc, List.append_assoc]
  exact Text.settledBehind _ (Text.settledBefore [')'] both fun r => rfl)

def orderItem (column : Column) : Text :=
  Name.text column.name ++ ' ' :: (column.ordering.getD .asc).keyword.toList

theorem settledOrderItem (first second : Column) {ends : Text → Prop} :
    Text.Settled ends (orderItem first) (orderItem second)
      ((first.name, first.ordering.getD .asc) = (second.name, second.ordering.getD .asc)) := by
  have apart : ∀ x y : Direction, x ≠ y → Text.differ x.keyword.toList y.keyword.toList := by
    intro x y other
    cases x <;> cases y <;> first | rfl | exact absurd rfl other
  have words : Text.Settled ends _ _ _ := Text.settledBehind [' ']
    (Text.settledWord (fun x : Direction => x.keyword.toList) apart
      (first.ordering.getD .asc) (second.ordering.getD .asc))
  have both := Text.settledAppend (Name.settledText first.name second.name) (fun _ => words)
    (fun r _ => Text.avoidsFirst rfl rfl) (fun r _ => Text.avoidsFirst rfl rfl)
  refine Text.settledImp both fun same => ?_
  rw [same.1, same.2]

theorem settledOrder (first second : List Column) :
    Text.Settled (fun r => r.head? = some ')') (Text.joined ", ".toList (first.map orderItem))
      (Text.joined ", ".toList (second.map orderItem))
      (first.map (fun column => (column.name, column.ordering.getD .asc)) =
        second.map fun column => (column.name, column.ordering.getD .asc)) :=
  settledNamed (fun x y => settledOrderItem x y) fun _ => ⟨_, rfl⟩

theorem settledColumns {first second : List Column}
    (left : ∀ column ∈ first, column.type.Readable)
    (right : ∀ column ∈ second, column.type.Readable) :
    Text.Settled (fun r => ∃ more, r = ", PRIMARY KEY (".toList ++ more)
      (Text.joined ", ".toList (first.map columnItem))
      (Text.joined ", ".toList (second.map columnItem))
      (first.map (fun column => (column.name, column.type)) =
        second.map fun column => (column.name, column.type)) := by
  refine Text.settledJoined (fun x inside y member =>
    settledColumnItem (left x inside) (right y member)) commaFollows ?_ ?_ ?_
  · rintro r ⟨more, rfl⟩
    exact commaFollows _
  · rintro x _ s ⟨more, rfl⟩ whole
    rw [show ", PRIMARY KEY (".toList = ", ".toList ++ "PRIMARY KEY (".toList from rfl,
      List.append_assoc] at whole
    have key := List.append_cancel_left whole
    rw [columnItem, List.append_assoc] at key
    exact Name.textApart x.name (Text.avoidsFirst rfl rfl) _ key
  · rintro x _ s ⟨more, rfl⟩
    rw [columnItem, List.append_assoc]
    exact Name.textApart x.name (Text.avoidsFirst rfl rfl) _

end Table
end CqlSchema

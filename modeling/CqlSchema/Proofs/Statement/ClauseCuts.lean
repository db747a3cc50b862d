import CqlSchema.Proofs.Name.Meaning
import CqlSchema.Proofs.Statement.Clauses

/-! The clauses of a statement found again in its text. Outside quotes no value and no list of
columns has a blank before a capital A, save for the word ASC, which is none of the words looked
for; so a cut at AND sees only the words between the clauses. That the body has no capital W leaves
the first WITH to the options. -/
namespace CqlSchema

namespace Text

/-- What stands before the clauses, or before the last character where there are none. -/
def unclaused (text : Text) : Text :=
  match cut? .flat " WITH ".toList none 0 text with
  | none => text.dropLast
  | some (before, _) => before

/-- The clauses behind the first WITH, up to the last character. -/
def clauses (text : Text) : List Text :=
  match cut? .flat " WITH ".toList none 0 text with
  | none => []
  | some (_, behind) => pieces .flat " AND ".toList behind.dropLast

abbrev Withless (text : Text) : Prop := Kept (fun c => c != 'W') text

/-- Between two clauses no AND starts in the text, if what follows it has no A in front. -/
abbrev Quiet (text : Text) : Prop :=
  Crossed .flat " AND ".toList 0 (Avoids (· == 'A')) text

theorem quietWords (text : Text) (plain : text.all (fun c => c != 'A' && !isQuote c) = true) :
    Quiet text := by
  have kept : Kept (fun c => c != 'A') text := keptWords plain
  refine ⟨passesSecond kept rfl rfl rfl rfl, fun r stop => ?_⟩
  cases text with
  | nil => exact stop
  | cons c rest =>
    rw [List.all_cons, Bool.and_eq_true, Bool.and_eq_true, bne_iff_ne] at plain
    rw [List.cons_append, avoidsCons, beq_eq_false_iff_ne]
    exact plain.1.1

theorem quietLiteral (value : String) : Quiet (Literal.text value) := by
  have nothing : Kept (fun _ => false) (Literal.text value) := keptEnclosed rfl _
  exact ⟨passesFirst nothing rfl rfl fun _ => rfl, fun _ _ => avoidsFirst rfl rfl⟩

theorem quietNumber {text : Text} (number : Decimal.NumberText text) : Quiet text := by
  refine ⟨passesFirst (keptUnquoted number.characters rfl rfl) rfl rfl fun _ => rfl, fun r _ => ?_⟩
  obtain ⟨c, rest, rfl, start⟩ := number.start
  rw [List.cons_append, avoidsCons, beq_eq_false_iff_ne]
  exact classApart start rfl

theorem quietName (name : String) : Quiet (Name.text name) := by
  refine ⟨passesFirst (Name.keptText name) rfl rfl fun _ => rfl, fun r _ => ?_⟩
  obtain ⟨c, rest, shape, opens⟩ := Name.textOpens name
  rw [shape, List.cons_append, avoidsCons, beq_eq_false_iff_ne]
  exact classApart opens rfl

end Text

theorem OptionValue.quietText (value : OptionValue) : Text.Quiet value.rendered := by
  induction value using OptionValue.inductOn with
  | flag => exact Text.crossedNil
  | text value => exact Text.quietLiteral value
  | integer value => exact Text.quietNumber (Decimal.integerNumber _)
  | float value => exact Text.quietNumber (Decimal.plainNumber _)
  | boolean value => cases value <;> exact Text.quietWords _ rfl
  | map entries ih =>
    have comma : Text.Quiet ", ".toList := Text.quietWords _ rfl
    have colon : Text.Quiet ": ".toList := Text.quietWords _ rfl
    have entry : ∀ entry ∈ entries, Text.Quiet (Options.entryText entry) := fun entry inside =>
      Text.crossedAppend (Text.crossedAppend (Text.quietLiteral entry.1) colon) (ih entry inside)
    have inner : Text.Quiet (Text.joined ", ".toList (Options.renderedEntries entries)) := by
      rw [Options.renderedMap]
      refine Text.crossedJoined comma fun part inside => ?_
      obtain ⟨one, member, rfl⟩ := List.mem_map.mp inside
      exact entry one member
    have opening : Text.Quiet ['\x7b'] := Text.quietWords _ rfl
    have closing : Text.Quiet ['\x7d'] := Text.quietWords _ rfl
    exact Text.crossedAppend opening (Text.crossedAppend inner closing)

theorem Table.quietOrderItem (column : Column) : Text.Quiet (Table.orderItem column) := by
  have direction : ∀ direction : Direction, Text.Quiet (' ' :: direction.keyword.toList) := by
    intro direction
    have words : Text.Kept (fun c => c == ' ' || c.isUpper) (' ' :: direction.keyword.toList) := by
      cases direction <;> exact Text.keptWords rfl
    refine ⟨Text.passesWords words rfl ?_, fun _ _ => Text.avoidsFirst rfl rfl⟩
    cases direction <;> rfl
  exact Text.crossedAppend (Text.quietName column.name) (direction _)

namespace Clause

theorem passesText {clause : Clause} (plain : clause.Plain) :
    Text.Passes .flat " AND ".toList 0 (Text.Avoids (· == 'A')) clause.text := by
  -- The word of a clause may be AND itself, but no blank stands before it.
  obtain ⟨word, rest, split, letters⟩ := plainSplit plain
  have rests : Text.Passes .flat " AND ".toList 0 (Text.Avoids (· == 'A')) rest := by
    cases split with
    | order clustering =>
      refine (Text.crossedAppend (Text.quietWords _ rfl) (Text.crossedAppend ?_
        (Text.quietWords [')'] rfl))).passes
      refine Text.crossedJoined (Text.quietWords _ rfl) fun part inside => ?_
      obtain ⟨column, -, rfl⟩ := List.mem_map.mp inside
      exact Table.quietOrderItem column
    | flag name => exact Text.passesNil
    | storage =>
      have words : Text.Kept (fun c => c == ' ' || c.isUpper) " STORAGE".toList :=
        Text.keptWords rfl
      exact Text.passesWords words rfl rfl
    | @value name value given =>
      exact (Text.crossedAppend (Text.quietWords _ rfl) value.quietText).passes
  have kept : Text.Kept DataType.isWordChar word := Text.keptUnquoted letters rfl rfl
  have words : Text.Passes .flat " AND ".toList 0 (fun _ => True) word :=
    Text.passesFirst kept rfl rfl fun _ => rfl
  rw [splitText split]
  exact Text.passesAppend words rests fun _ _ => trivial

theorem betweenClauses (r : Text) : Text.Avoids (· == 'A') (" AND ".toList ++ r) :=
  Text.avoidsFirst rfl rfl

theorem recutFirst {first : Clause} (plain : first.Plain) (texts : List Text) :
    Text.recut .flat " AND ".toList (first.text :: texts) =
      first.text :: Text.recut .flat " AND ".toList texts :=
  Text.recutCons (by simp) (passesText plain) (Text.avoidsNil _) betweenClauses

theorem recutPlain {clauses : List Clause} (plain : ∀ clause ∈ clauses, clause.Plain) :
    Text.recut .flat " AND ".toList (clauses.map text) = clauses.map text := by
  refine Text.recutSame (by simp) (fun part inside => ?_) (Text.avoidsNil _) betweenClauses
  obtain ⟨clause, member, rfl⟩ := List.mem_map.mp inside
  exact passesText (plain clause member)

section
variable {body : Text} {clauses : List Clause} (withless : Text.Withless body)
include withless

theorem withFound (first : Clause) (rest : List Clause) :
    Text.cut? .flat " WITH ".toList none 0 (body ++ tail (first :: rest)) =
      some (body, Text.joined " AND ".toList ((first :: rest).map text) ++ [';']) :=
  Text.cutBehind (by simp) (Text.passesSecond withless rfl rfl rfl rfl) (Text.avoidsFirst rfl rfl)

theorem withMissing : Text.cut? .flat " WITH ".toList none 0 (body ++ tail []) = none := by
  have whole : Text.Withless (body ++ [';']) := Text.keptAppend withless (Text.keptWords rfl)
  exact Text.cutNone (Text.passesSecond whole rfl rfl rfl rfl) (Text.avoidsNil _)

theorem unclausedTail : Text.unclaused (body ++ tail clauses) = body := by
  cases clauses with
  | nil =>
    rw [Text.unclaused, withMissing withless]
    exact List.dropLast_concat
  | cons first rest => rw [Text.unclaused, withFound withless]

theorem clausesTail :
    Text.clauses (body ++ tail clauses) = Text.recut .flat " AND ".toList (clauses.map text) := by
  cases clauses with
  | nil =>
    rw [Text.clauses, withMissing withless]
    rfl
  | cons first rest =>
    rw [Text.clauses, withFound withless]
    simp only [List.dropLast_concat]
    rfl

theorem withIffClauses :
    Text.cut? .flat "WITH".toList none 0 (body ++ tail clauses) = none ↔ clauses = [] := by
  constructor
  · intro missing
    cases clauses with
    | nil => rfl
    | cons first rest =>
      have spaced : Text.Withless (body ++ [' ']) :=
        Text.keptAppend withless (Text.keptWords rfl)
      have whole : body ++ tail (first :: rest) = body ++ [' '] ++ ("WITH".toList ++ (' ' ::
          (Text.joined " AND ".toList ((first :: rest).map text) ++ [';']))) := by
        rw [List.append_assoc]
        rfl
      have passes : Text.Passes .flat "WITH".toList 0 (fun _ => True) (body ++ [' ']) :=
        Text.passesFirst spaced rfl rfl fun _ => rfl
      rw [whole, Text.cutBehind (by simp) passes trivial] at missing
      cases missing
  · intro none
    subst none
    have whole : Text.Withless (body ++ [';']) := Text.keptAppend withless (Text.keptWords rfl)
    have passes : Text.Passes .flat "WITH".toList 0 (fun _ => True) (body ++ [';']) :=
      Text.passesFirst whole rfl rfl fun _ => rfl
    exact Text.cutNone passes trivial

end
end Clause
end CqlSchema

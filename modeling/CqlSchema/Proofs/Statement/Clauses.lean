import CqlSchema.Options.Known
import CqlSchema.Proofs.Options.Setting
import CqlSchema.Proofs.Table.Columns

/-! What the clauses behind WITH tell: the order of the clustering columns, and each option with its
name and its value. A clause is a word and a rest, and the second letter of the rest tells which
clause it is. Names of options stand without quotes, so this is asked of names of one word and of
the one flag of two. -/
namespace CqlSchema

/-- An option with one word as its name, or the flag of two words. -/
def Options.PlainEntry (entry : String × OptionValue) : Prop :=
  (∀ c ∈ entry.1.toList, DataType.isWordChar c = true) ∨
    entry.1 = TableOption.compactStorage.name ∧ entry.2 = .flag

inductive Clause
  | order (clustering : List Column)
  | option (name : String) (value : OptionValue)

namespace Clause

def text : Clause → Text
  | order clustering =>
    "CLUSTERING".toList ++
      (" ORDER BY (".toList ++ (Text.joined ", ".toList (clustering.map Table.orderItem) ++ [')']))
  | option name value => Options.clause name value

def meaning : Clause → List (String × Direction) ⊕ (String × Setting)
  | order clustering =>
    .inl (clustering.map fun column => (column.name, column.ordering.getD .asc))
  | option name value => .inr (name, value.setting)

def Plain : Clause → Prop
  | order _ => True
  | option name value => Options.PlainEntry (name, value)

inductive Split : Clause → Text → Text → Prop
  | order (clustering : List Column) :
    Split (order clustering) "CLUSTERING".toList
      (" ORDER BY (".toList ++ (Text.joined ", ".toList (clustering.map Table.orderItem) ++ [')']))
  | flag (name : String) : Split (option name .flag) name.toList []
  | storage :
    Split (option TableOption.compactStorage.name .flag) "COMPACT".toList " STORAGE".toList
  | value (name : String) {value : OptionValue} (given : value ≠ .flag) :
    Split (option name value) name.toList (" = ".toList ++ value.rendered)

theorem splitText {clause : Clause} {word rest : Text} (split : Split clause word rest) :
    clause.text = word ++ rest := by
  cases split with
  | order clustering => rfl
  | flag name => exact (List.append_nil name.toList).symm
  | storage => rfl
  | @value name value given =>
    cases value with
    | flag => exact absurd rfl given
    | text _ | integer _ | float _ | boolean _ | map _ => exact List.append_assoc _ _ _

theorem plainSplit {clause : Clause} (plain : clause.Plain) :
    ∃ word rest, Split clause word rest ∧ ∀ c ∈ word, DataType.isWordChar c = true := by
  cases clause with
  | order clustering => exact ⟨_, _, .order clustering, List.all_eq_true.mp (by decide)⟩
  | option name value =>
    rcases plain with word | ⟨rfl, rfl⟩
    · by_cases given : value = .flag
      · subst given
        exact ⟨_, _, .flag name, word⟩
      · exact ⟨_, _, .value name given, word⟩
    · exact ⟨_, _, .storage, List.all_eq_true.mp (by decide)⟩

/-- What stands behind a clause: another one or the end of the statement. -/
def Ends (r : Text) : Prop := (∃ more, r = " AND ".toList ++ more) ∨ ∃ more, r = ';' :: more

theorem endsAvoid {p : Char → Bool} (space : p ' ' = false) (semicolon : p ';' = false) {r : Text}
    (ends : Ends r) : Text.Avoids p r := by
  rcases ends with ⟨more, rfl⟩ | ⟨more, rfl⟩
  · exact Text.avoidsFirst rfl space
  · exact Text.avoidsFirst rfl semicolon

theorem endsApart {r words : Text} (ends : Ends r)
    (clash : Text.differ " AND ".toList words = true) (other : Text.differ [';'] words = true)
    (s : Text) : r ≠ words ++ s := by
  rcases ends with ⟨more, rfl⟩ | ⟨more, rfl⟩
  · exact Text.differApart clash more s
  · exact Text.differApart other more s

theorem settledClash {a b : Text} (clash : Text.differ a b = true) {same : Prop} :
    Text.Settled Ends a b same :=
  fun r s _ _ whole => absurd whole (Text.differApart clash r s)

/-- A flag ends with its word, so that no rest stands between it and what comes next. -/
theorem settledFlag {rest : Text} (clash : Text.differ " AND ".toList rest = true)
    (other : Text.differ [';'] rest = true) {same : Prop} : Text.Settled Ends [] rest same :=
  fun _ s first _ whole => absurd whole (endsApart first clash other s)

theorem settledRests {first second : Clause} {word word' rest rest' : Text}
    (left : Split first word rest) (right : Split second word' rest') (same : word = word') :
    Text.Settled Ends rest rest' (first.meaning = second.meaning) := by
  -- Two rests of one form are compared behind their words; those of two forms differ at once.
  cases left with
  | order clustering =>
    cases right with
    | order others =>
      exact Text.settledImp (Text.settledBehind _ (Text.settledBefore [')']
        (Table.settledOrder clustering others) fun r => rfl)) (congrArg Sum.inl)
    | flag name => exact Text.settledSymm (settledFlag rfl rfl)
    | storage | value _ _ => exact settledClash rfl
  | flag name =>
    cases right with
    | flag other =>
      cases String.toList_inj.mp same
      exact fun r s _ _ whole => ⟨rfl, whole⟩
    | order _ | storage | value _ _ => exact settledFlag rfl rfl
  | storage =>
    cases right with
    | storage => exact fun r s _ _ whole => ⟨rfl, List.append_cancel_left whole⟩
    | flag name => exact Text.settledSymm (settledFlag rfl rfl)
    | order _ | value _ _ => exact settledClash rfl
  | @value name value given =>
    cases right with
    | @value other value' given' =>
      cases String.toList_inj.mp same
      have values := Text.settledMono (OptionValue.settledText value value')
        fun r ends => endsAvoid rfl rfl ends
      refine Text.settledImp (Text.settledBehind _ values) fun same => ?_
      rw [meaning, meaning, same]
    | flag name => exact Text.settledSymm (settledFlag rfl rfl)
    | order _ | storage => exact settledClash rfl

theorem restAvoids {clause : Clause} {word rest r : Text} (split : Split clause word rest)
    (ends : Ends r) : Text.Avoids DataType.isWordChar (rest ++ r) := by
  cases split with
  | flag name => exact endsAvoid rfl rfl ends
  | order _ | storage | value _ _ => exact Text.avoidsFirst rfl rfl

theorem settledText {first second : Clause} (left : first.Plain) (right : second.Plain) :
    Text.Settled Ends first.text second.text (first.meaning = second.meaning) := by
  obtain ⟨word, rest, split, letters⟩ := plainSplit left
  obtain ⟨word', rest', split', letters'⟩ := plainSplit right
  rw [splitText split, splitText split']
  refine Text.settledImp (Text.settledAppend (Text.settledRun letters letters')
    (settledRests split split') ?_ ?_) And.right
  · exact fun r => restAvoids split
  · exact fun r => restAvoids split'

def tail : List Clause → Text
  | [] => [';']
  | first :: rest =>
    " WITH ".toList ++ (Text.joined " AND ".toList ((first :: rest).map text) ++ [';'])

def ordering (clustering : List Column) : List Clause :=
  if clustering.all (·.ordering.isNone) then [] else [order clustering]

theorem orderingWritten (clustering : List Column) :
    Table.clusteringOrder clustering = (ordering clustering).map text := by
  unfold Table.clusteringOrder ordering
  split
  · rfl
  · exact congrArg (fun clause => [clause]) (List.append_assoc _ _ _)

theorem orderingPlain (clustering : List Column) : ∀ clause ∈ ordering clustering, clause.Plain := by
  intro clause inside
  unfold ordering at inside
  split at inside
  · cases inside
  · cases List.mem_singleton.mp inside
    trivial

def ofOptions (options : Options) : List Clause := options.map fun entry => option entry.1 entry.2

theorem optionsPlain {options : Options} (plain : ∀ entry ∈ options, Options.PlainEntry entry) :
    ∀ clause ∈ ofOptions options, clause.Plain := by
  intro clause inside
  obtain ⟨entry, member, rfl⟩ := List.mem_map.mp inside
  exact plain entry member

theorem tailWritten (leading : List Clause) (options : Options) :
    Options.withClauses (leading.map text) options ++ [';'] = tail (leading ++ ofOptions options) := by
  have texts : leading.map text ++ options.map (fun entry => Options.clause entry.1 entry.2) =
      (leading ++ ofOptions options).map text := by
    rw [ofOptions, List.map_append, List.map_map]
    rfl
  unfold Options.withClauses
  rw [texts]
  cases leading ++ ofOptions options with
  | nil => rfl
  | cons first rest => exact List.append_assoc _ _ _

def orderTold (clustering : List Column) : Option (List (String × Direction)) :=
  if clustering.all (·.ordering.isNone) then none
  else some (clustering.map fun column => (column.name, column.ordering.getD .asc))

theorem orderingMeaning (clustering : List Column) :
    (ordering clustering).map meaning = (orderTold clustering).toList.map .inl := by
  unfold ordering orderTold
  split <;> rfl

theorem optionsMeaning (options : Options) :
    (ofOptions options).map meaning = (Options.settings options).map .inr := by
  rw [ofOptions, Options.settingsMap, List.map_map, List.map_map]
  rfl

theorem meaningTells {α β : Type} {first second : Option α} {xs ys : List β}
    (same : first.toList.map Sum.inl ++ xs.map Sum.inr = second.toList.map Sum.inl ++ ys.map Sum.inr) :
    first = second ∧ xs = ys := by
  have left := congrArg (List.filterMap Sum.getLeft?) same
  have right := congrArg (List.filterMap Sum.getRight?) same
  simp only [List.filterMap_append, List.filterMap_map, Function.comp_def, Sum.getLeft?_inl,
    Sum.getLeft?_inr, Sum.getRight?_inl, Sum.getRight?_inr, List.filterMap_some,
    List.filterMap_none, List.append_nil, List.nil_append] at left right
  refine ⟨?_, right⟩
  cases first <;> cases second <;> simp_all

theorem tellsTail {first second : List Clause} (left : ∀ clause ∈ first, clause.Plain)
    (right : ∀ clause ∈ second, clause.Plain) (same : tail first = tail second) :
    first.map meaning = second.map meaning := by
  cases first with
  | nil =>
    cases second with
    | nil => rfl
    | cons => cases congrArg List.head? same
  | cons x xs =>
    cases second with
    | nil => cases congrArg List.head? same
    | cons y ys =>
      have clauses : Text.Settled (· = [';']) (Text.joined " AND ".toList ((x :: xs).map text))
          (Text.joined " AND ".toList ((y :: ys).map text))
          ((x :: xs).map meaning = (y :: ys).map meaning) := by
        refine Text.settledItems (fun x' inside y' member =>
          settledText (left x' inside) (right y' member)) ?_ ?_ ?_
        · exact fun r => .inl ⟨r, rfl⟩
        · rintro _ rfl
          exact .inr ⟨[], rfl⟩
        · rintro x' _ s rfl whole
          cases congrArg List.head? whole
      exact (clauses [';'] [';'] rfl rfl (List.append_cancel_left same)).1

end Clause
end CqlSchema

import CqlSchema.Proofs.Options.Setting

/-! Values that read alike in a statement. The text of a value ends where the value ends, so two
values whose texts stand before any rests of one text are alike and the rests are the same. -/
namespace CqlSchema

namespace OptionValue

def decimal? : OptionValue → Option Text
  | .integer value => some (Decimal.integer value.toInt)
  | .float value => some (Decimal.plain value)
  | _ => none

/-- Equal up to numbers with one decimal text, such as the whole number 1 and the float 1.0. -/
inductive Alike : OptionValue → OptionValue → Prop
  | flag : Alike .flag .flag
  | text (value : String) : Alike (.text value) (.text value)
  | number {first second : OptionValue} {decimal : Text} (left : first.decimal? = some decimal)
      (right : second.decimal? = some decimal) : Alike first second
  | boolean (value : Bool) : Alike (.boolean value) (.boolean value)
  | map {entries others : Options} (keys : Options.names entries = Options.names others)
      (values : List.Forall₂ Alike (entries.map Prod.snd) (others.map Prod.snd)) :
      Alike (.map entries) (.map others)

theorem decimalSetting {value : OptionValue} {decimal : Text} :
    value.decimal? = some decimal ↔ value.setting = .number decimal := by
  cases value <;> simp [decimal?, setting]

theorem settingsAlike {entries : Options} (each : ∀ entry ∈ entries, ∀ other : OptionValue,
      entry.2.Alike other ↔ entry.2.setting = other.setting) (others : Options) :
    Options.names entries = Options.names others ∧
        List.Forall₂ Alike (entries.map Prod.snd) (others.map Prod.snd) ↔
      Options.settings entries = Options.settings others := by
  induction entries generalizing others with
  | nil => cases others <;> simp [Options.names, Options.settings]
  | cons entry entries ih =>
    obtain ⟨head, tail⟩ := List.forall_mem_cons.mp each
    cases others with
    | nil => simp [Options.names, Options.settings]
    | cons other others =>
      have rest := ih tail others
      simp only [Options.names] at rest
      simp only [Options.names, Options.settings, List.map_cons, List.cons.injEq,
        List.forall₂_cons, Prod.mk.injEq, head, ← rest]
      tauto

theorem leafAlike {first second : OptionValue} (leaf : ∀ entries, first ≠ .map entries) :
    first.Alike second ↔ first.setting = second.setting := by
  constructor
  · intro alike
    cases alike with
    | number left right => exact (decimalSetting.mp left).trans (decimalSetting.mp right).symm
    | map => exact absurd rfl (leaf _)
    | flag | text _ | boolean _ => rfl
  · intro same
    cases first with
    | flag =>
      cases second with
      | flag => exact .flag
      | text _ | integer _ | float _ | boolean _ | map _ => cases same
    | text value =>
      cases second with
      | text other =>
        cases same
        exact .text value
      | flag | integer _ | float _ | boolean _ | map _ => cases same
    | integer value | float value => exact .number rfl (decimalSetting.mpr same.symm)
    | boolean value =>
      cases second with
      | boolean other =>
        cases same
        exact .boolean value
      | flag | text _ | integer _ | float _ | map _ => cases same
    | map entries => exact absurd rfl (leaf entries)

theorem alikeIff (first second : OptionValue) :
    first.Alike second ↔ first.setting = second.setting := by
  induction first using inductOn generalizing second with
  | flag | text _ | integer _ | float _ | boolean _ => exact leafAlike (by simp)
  | map entries ih =>
    have inside := settingsAlike ih
    constructor
    · intro alike
      cases alike with
      | number left => cases left
      | map keys values => exact congrArg Setting.map ((inside _).mp ⟨keys, values⟩)
    · intro same
      cases second with
      | map others =>
        obtain ⟨keys, values⟩ := (inside others).mpr (Setting.map.inj same)
        exact .map keys values
      | flag | text _ | integer _ | float _ | boolean _ => cases same

/-- What may stand behind a value in a statement. -/
def EndsValue (text : Text) : Prop :=
  ∀ c ∈ text.head?, c = ',' ∨ c = '\x7d' ∨ c = ';' ∨ c = ' '

theorem endsAvoid {text : Text} (ends : EndsValue text) : Text.Avoids continues text := by
  intro c first
  rcases ends c first with rfl | rfl | rfl | rfl <;> rfl

theorem decimalRendered {value : OptionValue} {decimal : Text}
    (number : value.decimal? = some decimal) : value.rendered = decimal := by
  cases value with
  | integer _ | float _ => exact Option.some.inj number
  | flag | text _ | boolean _ | map _ => cases number

theorem entriesAlike {entries others : Options}
    (keys : Options.names entries = Options.names others)
    (values : List.Forall₂ Alike (entries.map Prod.snd) (others.map Prod.snd))
    (each : ∀ entry ∈ entries, ∀ other : OptionValue,
      entry.2.Alike other → entry.2.rendered = other.rendered) :
    entries.map Options.entryText = others.map Options.entryText := by
  induction entries generalizing others with
  | nil =>
    cases others with
    | nil => rfl
    | cons other others => cases keys
  | cons entry entries ih =>
    cases others with
    | nil => cases keys
    | cons other others =>
      obtain ⟨key, keys⟩ : entry.1 = other.1 ∧ _ := List.cons.inj keys
      obtain ⟨value, values⟩ := List.forall₂_cons.mp values
      obtain ⟨head, tail⟩ := List.forall_mem_cons.mp each
      rw [List.map_cons, List.map_cons, ih keys values tail, Options.entryText, Options.entryText,
        head _ value, key]

theorem renderedAlike {first second : OptionValue} (alike : first.Alike second) :
    first.rendered = second.rendered := by
  induction first using inductOn generalizing second with
  | flag | text _ | boolean _ =>
    cases alike with
    | number left right => exact (decimalRendered left).trans (decimalRendered right).symm
    | _ => rfl
  | integer _ | float _ =>
    cases alike with
    | number left right => exact (decimalRendered left).trans (decimalRendered right).symm
  | map entries ih =>
    cases alike with
    | number left => cases left
    | map keys values =>
      have same := entriesAlike keys values fun entry inside _ => ih entry inside
      rw [rendered, rendered, Options.renderedMap, Options.renderedMap, same]

/-- Two values start one text exactly if they are alike and the same follows. Flags and floats that
are not finite are no exception. -/
theorem valuesDelimited {r s : Text} (left : EndsValue r) (right : EndsValue s)
    (first second : OptionValue) :
    (first.rendered ++ r = second.rendered ++ s ↔ first.Alike second ∧ r = s) ∧
    (first.rendered ++ r = second.rendered ++ s →
      (∀ value, first = .text value → second = .text value) ∧
      ∀ entries, first = .map entries → ∃ others, second = .map others ∧
        Options.names entries = Options.names others ∧
        List.Forall₂ Alike (entries.map Prod.snd) (others.map Prod.snd)) := by
  have delimited : first.rendered ++ r = second.rendered ++ s → first.Alike second ∧ r = s := by
    intro whole
    obtain ⟨same, rests⟩ := settledText first second r s (endsAvoid left) (endsAvoid right) whole
    exact ⟨(alikeIff first second).mpr same, rests⟩
  refine ⟨⟨delimited, ?_⟩, ?_⟩
  · intro told
    obtain ⟨alike, rests⟩ := told
    rw [renderedAlike alike, rests]
  · intro whole
    obtain ⟨alike, -⟩ := delimited whole
    constructor
    · intro value given
      subst given
      cases alike with
      | text => rfl
      | number number => cases number
    · intro entries given
      subst given
      cases alike with
      | map keys values => exact ⟨_, rfl, keys, values⟩
      | number number => cases number

/-- The key of the outer map imitates the end of its entry, and the number is kept in two ways. -/
theorem nestedNumberDelimited :
    let value (number : OptionValue) : OptionValue :=
      .map [("': 1\x7d, '", .map [("it''s", number), ("", .text "', 'x': 2")]),
        ("b", .boolean true)]
    EndsValue " AND x".toList ∧
      (value (.integer (-1))).rendered = (value (.float (-1.0))).rendered ∧
      (value (.integer (-1))).Alike (value (.float (-1.0))) := by
  intro value
  have ends : EndsValue " AND x".toList := by
    intro c first
    cases first
    exact .inr (.inr (.inr rfl))
  have same : (value (.integer (-1))).rendered = (value (.float (-1.0))).rendered := by
    decide +kernel
  have texts : (value (.integer (-1))).rendered ++ " AND x".toList =
      (value (.float (-1.0))).rendered ++ " AND x".toList := by rw [same]
  exact ⟨ends, same, ((valuesDelimited ends ends _ _).1.mp texts).1⟩

end OptionValue
end CqlSchema

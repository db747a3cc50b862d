import CqlSchema.Options.Clause
import CqlSchema.Proofs.Decimal.Characters
import CqlSchema.Proofs.Text.Settled

/-! What a statement tells of the value of an option. Of a number that is its decimal text, so that a
whole number and a float may be the same. Of everything else it is the value itself, and values
inside maps can be told apart at any depth. -/
namespace CqlSchema

inductive Setting
  | flag
  | text (value : String)
  | number (decimal : Text)
  | boolean (value : Bool)
  | map (entries : List (String × Setting))

mutual

def OptionValue.setting : OptionValue → Setting
  | .flag => .flag
  | .text value => .text value
  | .integer value => .number (Decimal.integer value.toInt)
  | .float value => .number (Decimal.plain value)
  | .boolean value => .boolean value
  | .map entries => .map (Options.settings entries)

def Options.settings : Options → List (String × Setting)
  | [] => []
  | (name, value) :: rest => (name, value.setting) :: Options.settings rest

end

namespace Options

def entryText (entry : String × OptionValue) : Text :=
  Literal.text entry.1 ++ ": ".toList ++ entry.2.rendered

theorem settingsMap (options : Options) :
    settings options = options.map fun entry => (entry.1, entry.2.setting) := by
  induction options with
  | nil => rfl
  | cons entry rest ih => simp [settings, ih]

theorem renderedMap (entries : Options) : renderedEntries entries = entries.map entryText := by
  induction entries with
  | nil => rfl
  | cons entry rest ih => simp [renderedEntries, entryText, ih]

end Options

theorem Literal.settledText (first second : String) :
    Text.Settled (fun r => r.head? ≠ some '\'') (text first) (text second) (first = second) :=
  Text.settledImp (Text.settledEnclosed '\'' _ _) String.toList_inj.mp

namespace OptionValue

@[elab_as_elim] theorem inductOn {motive : OptionValue → Prop} (value : OptionValue)
    (flag : motive flag) (text : ∀ value, motive (text value))
    (integer : ∀ value, motive (integer value)) (float : ∀ value, motive (float value))
    (boolean : ∀ value, motive (boolean value))
    (map : ∀ entries, (∀ entry ∈ entries, motive entry.2) → motive (map entries)) :
    motive value := by
  match value with
  | .flag => exact flag
  | .text value => exact text value
  | .integer value => exact integer value
  | .float value => exact float value
  | .boolean value => exact boolean value
  | .map entries =>
    refine map entries fun entry inside => ?_
    have smaller := List.sizeOf_lt_of_mem inside
    exact inductOn entry.2 flag text integer float boolean map
termination_by sizeOf value
decreasing_by
  cases entry
  simp at smaller ⊢
  omega

inductive Form
  | flag
  | text
  | number
  | boolean
  | map
  deriving DecidableEq

def form : OptionValue → Form
  | .flag => .flag
  | .text _ => .text
  | .integer _ | .float _ => .number
  | .boolean _ => .boolean
  | .map _ => .map

def formOf (text : Text) : Form :=
  match text.head? with
  | none => .flag
  | some c =>
    if c = '\'' then .text
    else if c = '\x7b' then .map
    else if Decimal.startsNumber c then .number
    else if c = 't' ∨ c = 'f' then .boolean
    else .flag

/-- A letter that a value may start with, or go on with behind its end. -/
def continues (c : Char) : Bool := Decimal.isNumberChar c || c == '\'' || c == '\x7b'

theorem numberForm {text : Text} (number : Decimal.NumberText text) (behind : Text) :
    formOf (text ++ behind) = .number := by
  obtain ⟨c, rest, rfl, start⟩ := number.start
  have unquoted : c ≠ '\'' := by rintro rfl; cases start
  have unopened : c ≠ '\x7b' := by rintro rfl; cases start
  simp [formOf, unquoted, unopened, start]

theorem flagForm {behind : Text} (stop : Text.Avoids continues behind) :
    formOf behind = .flag := by
  cases behind with
  | nil => rfl
  | cons c rest =>
    rw [Text.avoidsCons] at stop
    have other : ∀ d, continues d = true → c ≠ d := by
      rintro d goes rfl
      rw [stop] at goes
      cases goes
    have unstarted : Decimal.startsNumber c = false := by
      rw [Bool.eq_false_iff]
      intro start
      simp [continues, Decimal.startNumberChar start] at stop
    have unquoted := other '\'' rfl
    have unopened := other '\x7b' rfl
    have untrue := other 't' rfl
    have unfalse := other 'f' rfl
    simp [formOf, unquoted, unopened, untrue, unfalse, unstarted]

theorem formSeen (value : OptionValue) {behind : Text} (stop : Text.Avoids continues behind) :
    formOf (value.rendered ++ behind) = value.form := by
  cases value with
  | flag => exact flagForm stop
  | text value => rfl
  | integer value => exact numberForm (Decimal.integerNumber _) behind
  | float value => exact numberForm (Decimal.plainNumber _) behind
  | boolean value => cases value <;> rfl
  | map entries => rfl

theorem settledEntry {first second : String × OptionValue}
    (values : Text.Settled (Text.Avoids continues) first.2.rendered second.2.rendered
      (first.2.setting = second.2.setting)) :
    Text.Settled (Text.Avoids continues) (Options.entryText first) (Options.entryText second)
      ((first.1, first.2.setting) = (second.1, second.2.setting)) := by
  have keys : Text.Settled (fun _ => True) (Literal.text first.1 ++ ": ".toList)
      (Literal.text second.1 ++ ": ".toList) (first.1 = second.1) :=
    Text.settledBefore _ (Literal.settledText first.1 second.1) fun r => by simp
  refine Text.settledImp (Text.settledAppend keys (fun _ => values) ?_ ?_) fun same => ?_
  · exact fun _ _ => trivial
  · exact fun _ _ => trivial
  · rw [same.1, same.2]

theorem settledMaps {entries others : Options}
    (values : ∀ entry ∈ entries, ∀ other : OptionValue,
      Text.Settled (Text.Avoids continues) entry.2.rendered other.rendered
        (entry.2.setting = other.setting)) :
    Text.Settled (Text.Avoids continues) (map entries).rendered (map others).rendered
      ((map entries).setting = (map others).setting) := by
  have items : Text.Settled (fun r => r.head? = some '\x7d')
      (Text.joined ", ".toList (entries.map Options.entryText))
      (Text.joined ", ".toList (others.map Options.entryText))
      (entries.map (fun entry => (entry.1, entry.2.setting)) =
        others.map fun entry => (entry.1, entry.2.setting)) := by
    refine Text.settledJoined (fun x inside y _ => settledEntry (values x inside y.2)) ?_ ?_ ?_ ?_
    · exact fun r => Text.avoidsFirst rfl rfl
    · exact fun r closes => Text.avoidsFirst closes rfl
    · rintro x _ s closes rfl
      cases closes
    · rintro x _ s closes rfl
      cases closes
  have closed : Text.Settled (Text.Avoids continues) _ _ _ :=
    Text.settledBehind ['\x7b'] (Text.settledBefore ['\x7d'] items fun r => rfl)
  rw [rendered, rendered, setting, setting, Options.renderedMap, Options.renderedMap,
    Options.settingsMap, Options.settingsMap]
  exact Text.settledImp closed (congrArg Setting.map)

theorem settledForms {first second : OptionValue} (apart : first.form ≠ second.form) {same : Prop} :
    Text.Settled (Text.Avoids continues) first.rendered second.rendered same := by
  intro r s left right whole
  have forms := congrArg formOf whole
  rw [formSeen first left, formSeen second right] at forms
  exact absurd forms apart

theorem settledNumbers {first second : OptionValue} {a b : Text}
    (left : first.rendered = a) (right : second.rendered = b)
    (number : Decimal.NumberText a) (other : Decimal.NumberText b)
    (same : a = b → first.setting = second.setting) :
    Text.Settled (Text.Avoids continues) first.rendered second.rendered
      (first.setting = second.setting) := by
  rw [left, right]
  refine Text.settledMono (Text.settledImp
    (Text.settledRun number.characters other.characters) same) ?_
  exact fun r => Text.avoidsMono fun c goes => by simp [continues, goes]

theorem settledText (first second : OptionValue) :
    Text.Settled (Text.Avoids continues) first.rendered second.rendered
      (first.setting = second.setting) := by
  induction first using inductOn generalizing second with
  | flag =>
    cases second with
    | flag => exact fun r s _ _ whole => ⟨rfl, whole⟩
    | text _ | integer _ | float _ | boolean _ | map _ => exact settledForms (by simp [form])
  | text value =>
    cases second with
    | text other =>
      refine Text.settledMono (Text.settledImp (Literal.settledText value other) ?_) ?_
      · exact fun same => by rw [same]
      · exact fun r avoids => Text.avoidsHead avoids rfl
    | flag | integer _ | float _ | boolean _ | map _ => exact settledForms (by simp [form])
  | integer value =>
    have number := Decimal.integerNumber value.toInt
    cases second with
    | integer other =>
      exact settledNumbers rfl rfl number (Decimal.integerNumber _) (congrArg Setting.number)
    | float other =>
      exact settledNumbers rfl rfl number (Decimal.plainNumber _) (congrArg Setting.number)
    | flag | text _ | boolean _ | map _ => exact settledForms (by simp [form])
  | float value =>
    have number := Decimal.plainNumber value
    cases second with
    | integer other =>
      exact settledNumbers rfl rfl number (Decimal.integerNumber _) (congrArg Setting.number)
    | float other =>
      exact settledNumbers rfl rfl number (Decimal.plainNumber _) (congrArg Setting.number)
    | flag | text _ | boolean _ | map _ => exact settledForms (by simp [form])
  | boolean value =>
    cases second with
    | boolean other =>
      have apart : ∀ x y : Bool, x ≠ y → Text.differ (boolean x).rendered (boolean y).rendered := by
        decide
      exact Text.settledImp (Text.settledWord _ apart value other) (congrArg Setting.boolean)
    | flag | text _ | integer _ | float _ | map _ => exact settledForms (by simp [form])
  | map entries ih =>
    cases second with
    | map others => exact settledMaps ih
    | flag | text _ | integer _ | float _ | boolean _ => exact settledForms (by simp [form])

end OptionValue
end CqlSchema

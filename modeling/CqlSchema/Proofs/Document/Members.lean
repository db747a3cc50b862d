import CqlSchema.Document.Json
import CqlSchema.Document.Record
import CqlSchema.Document.Written
import CqlSchema.Proofs.Checked
import CqlSchema.Proofs.Json.Output
import CqlSchema.Proofs.Options.Finite

/-! Members of a written object, read one after the other. A record whose fields are all written under
different names is read by reading each member into its field. -/
namespace CqlSchema.Document

open Json (Output)

/-- A written value where so many lists and maps may stand around one another. -/
def nodeOf (levels : Nat) (output : Output) : JsonNode := ⟨levels, output.value⟩

def memberNodes (levels : Nat) (members : List (String × Output)) : List (JsonNode × JsonNode) :=
  members.map fun member => (nodeOf levels (.string member.1), nodeOf levels member.2)

theorem memberValuesMap (members : List (String × Output)) :
    Output.memberValues members = members.map fun member => (.ok member.1, member.2.value) := by
  induction members with
  | nil => rfl
  | cons member rest ih => rw [Output.memberValues, ih]; rfl

theorem itemValuesMap (items : List Output) : Output.itemValues items = items.map Output.value := by
  induction items with
  | nil => rfl
  | cons item rest ih => rw [Output.itemValues, ih]; rfl

theorem membersInside (levels : Nat) (value : Json) (members : List (String × Output)) :
    JsonNode.members ⟨levels + 1, value⟩ (Output.memberValues members) =
      .ok (memberNodes levels members) := by
  rw [memberValuesMap]
  simp [JsonNode.members, JsonNode.inside, memberNodes, nodeOf, Output.value, bind, Except.bind, pure,
    Except.pure]

variable {σ : Type} {fields : List (Field (Except String) JsonNode σ)} {levels : Nat}

def readMember (fields : List (Field (Except String) JsonNode σ)) (levels : Nat) (node : JsonNode)
    (value : σ) (member : String × Output) : Except String σ :=
  match fields.find? (·.name == member.1) with
  | some field => field.read node (nodeOf levels member.2) value
  | none => .ok value

def Complete (fields : List (Field (Except String) JsonNode σ)) (seen names : List String) : Prop :=
  ∀ field ∈ fields, field.required = true → field.name ∈ seen ∨ field.name ∈ names

section

variable {seen names : List String} {name : String}

theorem Complete.noneMissing (complete : Complete fields seen []) :
    (fields.find? fun field => field.required && !seen.contains field.name) = none := by
  rw [List.find?_eq_none]
  intro field member missing
  simp only [Bool.and_eq_true, Bool.not_eq_true', List.contains_eq_mem, decide_eq_false_iff_not]
    at missing
  exact missing.2 ((complete field member missing.1).resolve_right List.not_mem_nil)

theorem Complete.unknown (complete : Complete fields seen (name :: names))
    (found : fields.find? (·.name == name) = none) : Complete fields seen names := by
  intro field member required
  rcases complete field member required with before | behind
  · exact .inl before
  · rcases List.mem_cons.mp behind with same | behind
    · exact absurd (beq_iff_eq.mpr same) (List.find?_eq_none.mp found field member)
    · exact .inr behind

theorem Complete.known (complete : Complete fields seen (name :: names)) :
    Complete fields (name :: seen) names := by
  intro field member required
  rcases complete field member required with before | behind
  · exact .inl (List.mem_cons_of_mem _ before)
  · rcases List.mem_cons.mp behind with same | behind
    · exact .inl (same ▸ List.mem_cons_self)
    · exact .inr behind

end

theorem readNamedMembers {node : JsonNode} {members : List (String × Output)} {seen : List String}
    {value : σ} (distinct : (members.map (·.1)).Nodup)
    (fresh : ∀ name ∈ members.map (·.1), name ∉ seen)
    (complete : Complete fields seen (members.map (·.1))) :
    readNamed fields node seen value (memberNodes levels members) =
      members.foldlM (readMember fields levels node) value := by
  induction members generalizing seen value with
  | nil =>
    rw [memberNodes, List.map_nil, readNamed, complete.noneMissing]
    rfl
  | cons member rest ih =>
    obtain ⟨name, output⟩ := member
    obtain ⟨once, others⟩ := List.nodup_cons.mp distinct
    obtain ⟨new, freshRest⟩ := List.forall_mem_cons.mp fresh
    have named : Source.text "field identifier" (nodeOf levels (.string name)) =
        (.ok name : Except String String) := rfl
    rw [memberNodes, List.map_cons, ← memberNodes, readNamed, List.foldlM_cons, named, readMember]
    simp only [bind, Except.bind]
    cases found : fields.find? (·.name == name) with
    | none => exact ih others freshRest (complete.unknown found)
    | some field =>
      have unseen : seen.contains name = false := by simpa using new
      simp only [unseen, Bool.false_eq_true, if_false]
      cases field.read node (nodeOf levels output) value with
      | error message => rfl
      | ok next =>
        refine ih others (fun other inside => ?_) complete.known
        rw [List.mem_cons, not_or]
        exact ⟨fun same => once (same ▸ inside), freshRest other inside⟩

theorem readRecordMembers {record : String} {blank : σ} {members : List (String × Output)}
    (distinct : (members.map (·.1)).Nodup)
    (complete : ∀ field ∈ fields, field.required = true → field.name ∈ members.map (·.1)) :
    readRecord record fields blank (nodeOf (levels + 1) (.object members)) =
      members.foldlM (readMember fields levels (nodeOf (levels + 1) (.object members))) blank := by
  have parts : Source.parts record (nodeOf (levels + 1) (.object members)) =
      (.ok (.named (memberNodes levels members)) : Except String (Parts JsonNode)) := by
    rw [nodeOf, Output.value]
    simp only [Source.parts, JsonNode.parts, membersInside]
    rfl
  rw [readRecord, parts]
  exact readNamedMembers distinct (by simp) fun field member required =>
    .inr (complete field member required)

theorem foldOptional {α : Type} {node : JsonNode} {name : String} {output : α → Output}
    {given : Option α} {value : σ} (put : Option α → σ) (blank : put none = value)
    (reads : ∀ x, readMember fields levels node value (name, output x) = .ok (put (some x))) :
    (optionalMember name output given).foldlM (readMember fields levels node) value =
      .ok (put given) := by
  cases given with
  | none => rw [optionalMember, blank]; rfl
  | some x =>
    rw [optionalMember, List.foldlM_cons, reads]
    rfl

end CqlSchema.Document

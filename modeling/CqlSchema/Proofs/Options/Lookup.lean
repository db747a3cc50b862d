import CqlSchema.Proofs.Options.Depth

/-! What is found under the name of an option. A look-up never tells small letters from capital ones.
The check agrees with that for the options themselves; in a map it takes two keys that differ in case
for two keys, and then the first one is found under the names of both. -/
namespace CqlSchema.Options

/-- The first of the entries that has the name, in small or capital letters. -/
def FirstNamed (entries : Options) (name : String) (first : String × OptionValue) : Prop :=
  Text.sameLetters first.1 name = true ∧ ∃ before after, entries = before ++ first :: after ∧
    ∀ earlier ∈ before, Text.sameLetters earlier.1 name = false

theorem foundIff {entries : Options} {name : String} {value : OptionValue} :
    get? entries name = some value ↔ ∃ spelled, FirstNamed entries name (spelled, value) := by
  simp only [get?, Option.map_eq_some_iff, List.find?_eq_some_iff_append, Bool.not_eq_true']
  constructor
  · intro found
    obtain ⟨⟨spelled, first⟩, named, same⟩ := found
    cases same
    exact ⟨spelled, named⟩
  · intro found
    obtain ⟨spelled, named⟩ := found
    exact ⟨(spelled, value), named, rfl⟩

theorem firstNamedInside {entries : Options} {name : String} {first : String × OptionValue}
    (named : FirstNamed entries name first) : first ∈ entries := by
  obtain ⟨-, before, after, split, -⟩ := named
  rw [split]
  exact List.mem_append_right _ List.mem_cons_self

theorem firstNamedMore {before after : Options} {name : String} {first : String × OptionValue}
    (named : FirstNamed before name first) : FirstNamed (before ++ after) name first := by
  obtain ⟨same, front, rear, split, apart⟩ := named
  exact ⟨same, front, rear ++ after, by rw [split, List.append_assoc, List.cons_append], apart⟩

theorem sameLettersSelf (name : String) : Text.sameLetters name name = true :=
  (Text.sameLettersIff name name).mpr rfl

theorem ownNameFirst {before after : Options} {name : String} {value : OptionValue}
    (apart : ∀ earlier ∈ before, Text.sameLetters earlier.1 name = false) :
    FirstNamed (before ++ (name, value) :: after) name (name, value) :=
  ⟨sameLettersSelf name, before, after, rfl, apart⟩

theorem someNamed {entries : Options} {name : String} {value : OptionValue}
    (inside : (name, value) ∈ entries) : ∃ found, get? entries name = some found := by
  have present : (entries.find? fun entry => Text.sameLetters entry.1 name).isSome = true :=
    List.find?_isSome.mpr ⟨_, inside, sameLettersSelf name⟩
  obtain ⟨first, found⟩ := Option.isSome_iff_exists.mp present
  exact ⟨first.2, by rw [get?, found, Option.map_some]⟩

theorem foundAlike {first second : String} (alike : Text.sameLetters first second = true)
    (entries : Options) : get? entries first = get? entries second := by
  simp only [get?, Text.sameLetters, (Text.sameLettersIff first second).mp alike]

theorem foundApart {entries : Options} {name : String} {value : OptionValue}
    (named : Named Text.sameLetters entries) (inside : (name, value) ∈ entries) :
    get? entries name = some value := by
  obtain ⟨before, after, split⟩ := List.append_of_mem inside
  have distinct := named.distinct
  rw [split, names, List.map_append, List.pairwise_append] at distinct
  obtain ⟨-, -, apart⟩ := distinct
  rw [split, foundIff]
  refine ⟨name, ownNameFirst fun earlier member => ?_⟩
  exact apart earlier.1 (List.mem_map_of_mem member) name List.mem_cons_self

/-- Two entries of one name in different letters do no harm where they have one value. -/
theorem allFoundIff (entries : Options) :
    (∀ name value, (name, value) ∈ entries → get? entries name = some value) ↔
      ∀ first ∈ entries, ∀ second ∈ entries,
        Text.sameLetters first.1 second.1 = true → first.2 = second.2 := by
  constructor
  · intro found first inside second other alike
    have same := foundAlike alike entries
    rw [found _ _ inside, found _ _ other] at same
    exact Option.some.inj same
  · intro agree name value inside
    obtain ⟨found, present⟩ := someNamed inside
    obtain ⟨spelled, named⟩ := foundIff.mp present
    have same : found = value := agree _ (firstNamedInside named) _ inside named.1
    rw [present, same]

theorem lookupFindsFirstSpelling {options : Options} (checked : check options = .ok ()) :
    (∀ name value, (name, value) ∈ options → get? options name = some value) ∧
    ∀ entries, MapWithin options entries →
      (∀ before name value after, entries = before ++ (name, value) :: after →
        ((∀ earlier ∈ before, Text.sameLetters earlier.1 name = false) →
          get? entries name = some value) ∧
        ∀ spelled found, FirstNamed before name (spelled, found) →
          spelled ≠ name ∧ get? entries name = some found) ∧
      ((∀ name value, (name, value) ∈ entries → get? entries name = some value) ↔
        ∀ first ∈ entries, ∀ second ∈ entries,
          Text.sameLetters first.1 second.1 = true → first.2 = second.2) := by
  obtain ⟨named, held⟩ := checkOk.mp checked
  refine ⟨fun _ _ => foundApart named, fun entries within => ⟨?_, allFoundIff entries⟩⟩
  intro before name value after split
  obtain ⟨keyed, -⟩ := heldWithin held within
  have distinct := namedNodup keyed
  rw [split, names, List.map_append, List.nodup_append] at distinct
  obtain ⟨-, -, apart⟩ := distinct
  rw [split]
  constructor
  · intro unspelled
    exact foundIff.mpr ⟨name, ownNameFirst unspelled⟩
  · intro spelled found first
    have inside := List.mem_map_of_mem (f := (·.1)) (firstNamedInside first)
    exact ⟨apart spelled inside name List.mem_cons_self,
      foundIff.mpr ⟨spelled, firstNamedMore first⟩⟩

/-- In the inner map `"all"` hides `"ALL"`, and `"level"` is found. -/
theorem lookupTwoMapsDown :
    let log : Options := [("all", .boolean true), ("ALL", .boolean false), ("level", .integer 3)]
    let options : Options :=
      [("Comment", .text "x"), ("compaction", .map [("class", .text "X"), ("log", .map log)])]
    check options = .ok () ∧ get? options "Comment" = some (.text "x") ∧ MapWithin options log ∧
      get? log "level" = some (.integer 3) ∧ get? log "ALL" = some (.boolean true) := by
  intro log options
  have checked : check options = .ok () := by
    simp only [options, log]
    rfl
  have within : MapWithin options log := .deeper (.tail _ (.head _)) (.here (.tail _ (.head _)))
  obtain ⟨top, inner⟩ := lookupFindsFirstSpelling checked
  obtain ⟨single, -⟩ := (inner log within).1 [_, _] "level" (.integer 3) [] rfl
  obtain ⟨-, hidden⟩ := (inner log within).1 [_] "ALL" (.boolean false) [_] rfl
  have first : FirstNamed [("all", .boolean true)] "ALL" ("all", .boolean true) :=
    ⟨rfl, [], [], rfl, by simp⟩
  exact ⟨checked, top _ _ (.head _), within, single (by decide), (hidden _ _ first).2⟩

/-- The second data center is not found, though the check accepts its name beside the first. -/
theorem capitalKeyHidden :
    let replication : Options :=
      [("class", .text "NetworkTopologyStrategy"), ("dc1", .integer 3), ("DC1", .integer 2)]
    let options : Options := [("replication", .map replication)]
    check options = .ok () ∧ MapWithin options replication ∧ ("DC1", .integer 2) ∈ replication ∧
      get? replication "DC1" = some (.integer 3) ∧
      get? replication "DC1" ≠ some (.integer 2) := by
  intro replication options
  have found : get? replication "DC1" = some (.integer 3) := rfl
  refine ⟨rfl, .here (.head _), by simp [replication], found, ?_⟩
  rw [found]
  simp

end CqlSchema.Options

import CqlSchema.Keyspace
import CqlSchema.Proofs.Options.Refusal

/-! Which replication a keyspace can be created with. The data centers share one map with the class,
so the name of each must differ from `class` and from the names before it. -/
namespace CqlSchema

namespace Replication

/-- The numbers of copies by the names they are written under. -/
def factors : Replication → List (String × UInt32)
  | simple factor => [("replication_factor", factor)]
  | network dataCenters => dataCenters

def places (replication : Replication) : List String := replication.factors.map (·.1)

theorem optionsFactors (replication : Replication) :
    replication.options = ("class", .text replication.className) ::
      replication.factors.map fun place => (place.1, factorValue place.2) := by
  cases replication <;> rfl

theorem optionNames (replication : Replication) :
    Options.names replication.options = "class" :: replication.places := by
  simp [optionsFactors, Options.names, places]

theorem factorInt (factor : UInt32) : (Int64.ofNat factor.toNat).toInt = factor.toNat := by
  have small := factor.toNat_lt
  rw [Int64.toInt_ofNat_of_lt (by omega)]

theorem factorRendered (factor : UInt32) :
    (factorValue factor).rendered = Decimal.natural factor.toNat := by
  rw [factorValue, OptionValue.rendered, factorInt]
  rfl

theorem checkedNames (replication : Replication) :
    Options.check [("replication", replication.value)] =
      Options.checkNames (· == ·) ["replication"] replication.options := by
  have values : Options.checkValues ["replication"] replication.options = .ok () := by
    rw [Options.checkValuesOk, optionsFactors]
    intro entry inside
    rcases List.mem_cons.mp inside with same | factor
    · rw [same]
      rfl
    · obtain ⟨place, -, same⟩ := List.mem_map.mp factor
      rw [← same]
      rfl
  have named : Options.checkNames Text.sameLetters [] [("replication", replication.value)] =
      .ok () := rfl
  rw [Options.check, named, value]
  simp only [Options.checkValues, Options.checkValue, List.nil_append, values, bind, Except.bind]
  cases Options.checkNames (· == ·) ["replication"] replication.options <;> rfl

def Unambiguous : Replication → Prop
  | simple _ => True
  | network dataCenters =>
    (∀ name ∈ dataCenters.map (·.1), name ≠ "") ∧ (dataCenters.map (·.1)).Nodup ∧
      "class" ∉ dataCenters.map (·.1)

theorem namedPlaces (replication : Replication) :
    Options.Named (· == ·) replication.options ↔
      (∀ name ∈ replication.places, name ≠ "") ∧ replication.places.Nodup ∧
        "class" ∉ replication.places := by
  constructor
  · intro named
    have given := named.given
    have distinct := Options.namedNodup named
    rw [optionNames] at given distinct
    obtain ⟨apart, nodup⟩ := List.nodup_cons.mp distinct
    exact ⟨(List.forall_mem_cons.mp given).2, nodup, apart⟩
  · intro rules
    obtain ⟨given, nodup, apart⟩ := rules
    have whole : ("class" :: replication.places).Nodup := List.nodup_cons.mpr ⟨apart, nodup⟩
    constructor
    · rw [optionNames]
      exact List.forall_mem_cons.mpr ⟨by decide, given⟩
    · rw [optionNames]
      exact whole.imp beq_eq_false_iff_ne.mpr

theorem namedIff (replication : Replication) :
    Options.Named (· == ·) replication.options ↔ replication.Unambiguous := by
  rw [namedPlaces]
  cases replication with
  | simple factor => simp [Unambiguous, places, factors]
  | network dataCenters => rfl

/-- What repeats an earlier name cannot be the first one itself. -/
theorem repeatedBehind {first name : String} {list : List String} :
    (∃ before after, first :: list = before ++ name :: after ∧
        (before.Pairwise fun one other => (one == other) = false) ∧
        ∃ earlier ∈ before, (earlier == name) = true) ↔
      ∃ before after, list = before ++ name :: after ∧ before.Nodup ∧ first ∉ before ∧
        (name ∈ before ∨ name = first) := by
  constructor
  · intro repeats
    obtain ⟨before, after, split, distinct, earlier, inside, same⟩ := repeats
    cases before with
    | nil => cases inside
    | cons head before =>
      obtain ⟨rfl, tail⟩ := List.cons.inj split
      obtain ⟨apart, nodup⟩ := List.nodup_cons.mp (distinct.imp beq_eq_false_iff_ne.mp)
      refine ⟨before, after, tail, nodup, apart, ?_⟩
      rw [← beq_iff_eq.mp same]
      exact (List.mem_cons.mp inside).symm
  · intro repeats
    obtain ⟨before, after, split, nodup, apart, again⟩ := repeats
    refine ⟨first :: before, after, by rw [split, List.cons_append], ?_, name, ?_, by simp⟩
    · exact (List.nodup_cons.mpr ⟨apart, nodup⟩).imp beq_eq_false_iff_ne.mpr
    · exact List.mem_cons.mpr again.symm

theorem refusedIff (replication : Replication) (error : DefinitionError) :
    Options.checkNames (· == ·) ["replication"] replication.options = .error error ↔
      "" ∈ replication.places ∧ error = .emptyIdentifier (.optionKey ["replication"]) ∨
      "" ∉ replication.places ∧ ∃ name,
        (∃ before after, replication.places = before ++ name :: after ∧ before.Nodup ∧
          "class" ∉ before ∧ (name ∈ before ∨ name = "class")) ∧
        error = .duplicateOption ["replication", name] := by
  have inside : Options.sameAt ["replication"] = (· == ·) := rfl
  have blank : "" ∈ "class" :: replication.places ↔ "" ∈ replication.places := by simp
  have filled : (∀ name ∈ "class" :: replication.places, name ≠ "") ↔ "" ∉ replication.places := by
    rw [← blank]
    constructor
    · intro given empty
      exact given "" empty rfl
    · intro missing name member same
      exact missing (same ▸ member)
  rw [← inside, Options.checkNamesError, optionNames, inside, blank, filled]
  refine or_congr_right (and_congr_right fun _ => ?_)
  simp only [← repeatedBehind]
  constructor
  · intro refused
    obtain ⟨before, name, after, split, distinct, again, same⟩ := refused
    exact ⟨name, ⟨before, after, split, distinct, again⟩, same⟩
  · intro refused
    obtain ⟨name, ⟨before, after, split, distinct, again⟩, same⟩ := refused
    exact ⟨before, name, after, split, distinct, again, same⟩

/-- The map of the class and the places as it stands in a statement. -/
def written (replication : Replication) : Text :=
  '\x7b' :: (Text.joined ", ".toList (("'class': ".toList ++ Literal.text replication.className) ::
    replication.factors.map fun place =>
      Literal.text place.1 ++ ": ".toList ++ Decimal.natural place.2.toNat) ++ ['\x7d'])

theorem valueRendered (replication : Replication) :
    replication.value.rendered = replication.written := by
  rw [value, OptionValue.rendered, optionsFactors, Options.renderedEntries, Options.renderedMap,
    List.map_map]
  have places : (Options.entryText ∘ fun place => (place.1, factorValue place.2)) =
      fun place : String × UInt32 =>
        Literal.text place.1 ++ ": ".toList ++ Decimal.natural place.2.toNat := by
    funext place
    rw [Function.comp, Options.entryText, factorRendered]
  rw [places]
  rfl

end Replication

namespace Keyspace

theorem checkReplicated {name : String} (given : name ≠ "") (replication : Replication) :
    check { name, options := [("replication", replication.value)] } =
      Options.checkNames (· == ·) ["replication"] replication.options := by
  have named : requireName name .createKeyspace = .ok () := requireNameOk.mpr given
  rw [check, named]
  exact replication.checkedNames

theorem buildReplicated {name : String} (given : name ≠ "") (replication : Replication) :
    build name [.set (.replication replication)] =
      (Options.checkNames (· == ·) ["replication"] replication.options).map fun _ =>
        { name, options := [("replication", replication.value)] } := by
  rw [← checkReplicated given]
  exact checkedValue _ _

theorem clauseReplicated (replication : Replication) :
    Options.withClauses [] [("replication", replication.value)] =
      " WITH replication = ".toList ++ replication.written := by
  have single : Options.withClauses [] [("replication", replication.value)] = " WITH ".toList ++
      Text.joined " AND ".toList [Options.clause "replication" replication.value] := rfl
  have clause : Options.clause "replication" replication.value =
      "replication".toList ++ " = ".toList ++ replication.value.rendered := rfl
  have words : " WITH ".toList ++ ("replication".toList ++ " = ".toList) =
      " WITH replication = ".toList := by decide
  rw [single, Text.joinedSingleton, clause, replication.valueRendered, ← List.append_assoc, words]

theorem statementReplicated {name : String} (given : name ≠ "") {replication : Replication}
    (checked : Options.checkNames (· == ·) ["replication"] replication.options = .ok ()) :
    statement { name, options := [("replication", replication.value)] } =
      .ok ("CREATE KEYSPACE ".toList ++ Name.text name ++ " WITH replication = ".toList ++
        replication.written ++ [';']) := by
  have opening : body { name, options := [("replication", replication.value)] } =
      "CREATE KEYSPACE ".toList ++ Name.text name := rfl
  refine thenOk.mpr ⟨(checkReplicated given replication).trans checked, congrArg Except.ok ?_⟩
  rw [Options.terminated, opening, clauseReplicated, ← List.append_assoc _ _ replication.written]

/-- A replication is accepted exactly if its map has one entry for each name, and then stands in the
statement entry by entry. Otherwise a missing name is reported, or else the first name that has an
entry already. -/
theorem unambiguousReplicationAccepted {name : String} (given : name ≠ "")
    (replication : Replication) :
    ((∃ keyspace, build name [.set (.replication replication)] = .ok keyspace) ↔
      replication.Unambiguous) ∧
    (∀ keyspace, build name [.set (.replication replication)] = .ok keyspace →
      keyspace = { name, options := [("replication", .map (("class", .text replication.className) ::
        replication.factors.map fun place => (place.1, .integer (Int64.ofNat place.2.toNat))))] } ∧
      keyspace.statement = .ok ("CREATE KEYSPACE ".toList ++ Name.text name ++
        " WITH replication = ".toList ++ replication.written ++ [';'])) ∧
    (∀ error, build name [.set (.replication replication)] = .error error ↔
      "" ∈ replication.places ∧ error = .emptyIdentifier (.optionKey ["replication"]) ∨
      "" ∉ replication.places ∧ ∃ place,
        (∃ before after, replication.places = before ++ place :: after ∧ before.Nodup ∧
          "class" ∉ before ∧ (place ∈ before ∨ place = "class")) ∧
        error = .duplicateOption ["replication", place]) ∧
    ∀ place, OptionPath.text ["replication", place] = "replication." ++ place := by
  rw [buildReplicated given]
  refine ⟨?_, ?_, ?_, fun place => rfl⟩
  · rw [← Replication.namedIff, ← @Options.checkNamesOk _ ["replication"]]
    cases Options.checkNames (· == ·) ["replication"] replication.options <;> simp [Except.map]
  · intro keyspace built
    obtain ⟨⟨⟩, checked, same⟩ := transformedOk.mp built
    rw [same]
    refine ⟨?_, statementReplicated given checked⟩
    rw [Replication.value, Replication.optionsFactors]
    rfl
  · intro error
    rw [← Replication.refusedIff]
    cases Options.checkNames (· == ·) ["replication"] replication.options <;> simp [Except.map]

/-- The names of data centers may differ in case only. -/
theorem capitalDataCenterAccepted :
    let accepted : Replication := .network [("dc1", 3), ("DC1", 2)]
    let refused : Replication := .network [("dc1", 3), ("DC1", 2), ("class", 1), ("dc1", 1)]
    (∃ keyspace, build "ks" [.set (.replication accepted)] = .ok keyspace ∧
      keyspace.statement = .ok ("CREATE KEYSPACE ks WITH replication = ".toList ++
        "\x7b'class': 'NetworkTopologyStrategy', 'dc1': 3, 'DC1': 2\x7d;".toList)) ∧
    build "ks" [.set (.replication refused)] =
      .error (.duplicateOption ["replication", "class"]) := by
  intro accepted refused
  have given : "ks" ≠ "" := by decide
  obtain ⟨builds, shown, -⟩ := unambiguousReplicationAccepted given accepted
  obtain ⟨-, -, refusal, -⟩ := unambiguousReplicationAccepted given refused
  have apart : accepted.Unambiguous := by simp [accepted, Replication.Unambiguous]
  obtain ⟨keyspace, built⟩ := builds.mpr apart
  have written : "CREATE KEYSPACE ".toList ++ Name.text "ks" ++ " WITH replication = ".toList ++
      accepted.written ++ [';'] = "CREATE KEYSPACE ks WITH replication = ".toList ++
        "\x7b'class': 'NetworkTopologyStrategy', 'dc1': 3, 'DC1': 2\x7d;".toList := by decide
  have statement := (shown keyspace built).2
  rw [written] at statement
  refine ⟨⟨keyspace, built, statement⟩, (refusal _).mpr (.inr ⟨by decide, "class", ?_, rfl⟩)⟩
  exact ⟨["dc1", "DC1"], ["dc1"], rfl, by decide, by decide, .inr rfl⟩

end Keyspace
end CqlSchema

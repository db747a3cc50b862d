import CqlSchema.Proofs.Options.Depth

/-! Which options are refused, and where the error says they are at fault. The check goes down into
the first entry whose value is at fault, so the path in an error leads past sound values only. -/
namespace CqlSchema.Options

/-- Options themselves are compared without regard to case, keys of a map letter by letter. -/
def sameAt (path : OptionPath) : String → String → Bool :=
  if path.isEmpty then Text.sameLetters else (· == ·)

/-- The path leads from the options to a map inside them. The names on the way are in order, and no
value before an entry that is entered is at fault at any depth. -/
inductive Leads (options : Options) : OptionPath → Options → Prop
  | top : Leads options [] options
  | into {path : OptionPath} {before inner after : Options} {name : String}
      (outer : Leads options path (before ++ (name, .map inner) :: after))
      (named : Named (sameAt path) (before ++ (name, .map inner) :: after))
      (clean : ∀ entry ∈ before, entry.2.Held (!path.isEmpty)) :
      Leads options (path ++ [name]) inner

/-- What may be wrong with the entries at a path, apart from what is wrong inside their maps. -/
inductive FaultAt (path : OptionPath) (entries : Options) : DefinitionError → Prop
  | unnamed (blank : "" ∈ names entries) :
      FaultAt path entries (.emptyIdentifier (if path.isEmpty then .option else .optionKey path))
  | repeated {before after : List String} {name : String}
      (given : ∀ name ∈ names entries, name ≠ "")
      (split : names entries = before ++ name :: after)
      (distinct : before.Pairwise fun first second => sameAt path first second = false)
      (again : ∃ earlier ∈ before, sameAt path earlier name = true) :
      FaultAt path entries (.duplicateOption (path ++ [name]))
  | valueless {before after : Options} {name : String} (below : path ≠ [])
      (named : Named (sameAt path) entries) (split : entries = before ++ (name, .flag) :: after)
      (clean : ∀ entry ∈ before, entry.2.Held (!path.isEmpty)) :
      FaultAt path entries (.invalidOptionValue (path ++ [name]) .flagInMap)
  | infinite {before after : Options} {name : String} {value : Float}
      (named : Named (sameAt path) entries)
      (split : entries = before ++ (name, .float value) :: after)
      (clean : ∀ entry ∈ before, entry.2.Held (!path.isEmpty))
      (beyond : Decimal.isFinite value = false) :
      FaultAt path entries (.invalidOptionValue (path ++ [name]) .notFinite)

def checkAt (path : OptionPath) (entries : Options) : Except DefinitionError Unit := do
  checkNames (sameAt path) path entries
  checkValues path entries

theorem checkAtMap {path : OptionPath} (below : path ≠ []) (insideMap : Bool) (entries : Options) :
    checkValue path insideMap (.map entries) = checkAt path entries := by
  have exactly : sameAt path = (· == ·) := by simp [sameAt, below]
  rw [checkValue, checkAt, exactly]

theorem firstRepeatedSome {same : String → String → Bool} {earlier list : List String}
    {name : String} :
    firstRepeated? same earlier list = some name ↔
      ∃ before after, list = before ++ name :: after ∧ firstRepeated? same earlier before = none ∧
        ∃ other ∈ earlier ++ before, same other name = true := by
  induction list generalizing earlier with
  | nil => simp [firstRepeated?]
  | cons next rest ih =>
    by_cases repeated : earlier.any (same · next) = true
    · have found := List.any_eq_true.mp repeated
      simp only [firstRepeated?, repeated, if_true, Option.some.injEq]
      constructor
      · intro equal
        subst equal
        exact ⟨[], rest, rfl, rfl, by simpa using found⟩
      · intro found
        obtain ⟨before, after, split, fresh, -⟩ := found
        cases before with
        | nil => exact (List.cons.inj split).1
        | cons first before =>
          obtain ⟨equal, -⟩ := List.cons.inj split
          subst equal
          simp [firstRepeated?, repeated] at fresh
    · simp only [firstRepeated?, repeated, Bool.false_eq_true, if_false, ih]
      constructor
      · intro found
        obtain ⟨before, after, split, fresh, other, inside, equal⟩ := found
        refine ⟨next :: before, after, by simp [split], ?_, other, by simpa using inside, equal⟩
        simpa [firstRepeated?, repeated] using fresh
      · intro found
        obtain ⟨before, after, split, fresh, other, inside, again⟩ := found
        cases before with
        | nil =>
          obtain ⟨equal, -⟩ := List.cons.inj split
          subst equal
          exact absurd (List.any_eq_true.mpr ⟨other, by simpa using inside, again⟩) repeated
        | cons first before =>
          obtain ⟨equal, tail⟩ := List.cons.inj split
          subst equal
          have later : firstRepeated? same (earlier ++ [next]) before = none := by
            simpa [firstRepeated?, repeated] using fresh
          exact ⟨before, after, tail, later, other, by simpa using inside, again⟩

theorem checkNamesError {path : OptionPath} {entries : Options} {error : DefinitionError} :
    checkNames (sameAt path) path entries = .error error ↔
      "" ∈ names entries ∧
        error = .emptyIdentifier (if path.isEmpty then .option else .optionKey path) ∨
      (∀ name ∈ names entries, name ≠ "") ∧ ∃ before name after,
        names entries = before ++ name :: after ∧
        (before.Pairwise fun first second => sameAt path first second = false) ∧
        (∃ earlier ∈ before, sameAt path earlier name = true) ∧
        error = .duplicateOption (path ++ [name]) := by
  unfold checkNames
  by_cases blank : "" ∈ names entries
  · have empty : (names entries).any (·.isEmpty) = true := List.any_eq_true.mpr ⟨"", blank, rfl⟩
    simp only [empty, if_true, Except.error.injEq, blank, true_and]
    constructor
    · intro equal
      exact .inl equal.symm
    · intro refused
      rcases refused with equal | ⟨given, -⟩
      · exact equal.symm
      · exact absurd rfl (given "" blank)
  · have given : ∀ name ∈ names entries, name ≠ "" := by
      intro name inside equal
      subst equal
      exact blank inside
    have filled : (names entries).any (·.isEmpty) = false := by
      rw [List.any_eq_false]
      intro name inside empty
      exact given name inside (String.isEmpty_iff.mp empty)
    simp only [filled, Bool.false_eq_true, if_false, blank, false_and, false_or]
    cases repeated : firstRepeated? (sameAt path) [] (names entries) with
    | none =>
      obtain ⟨-, distinct⟩ := firstRepeatedNone.mp repeated
      simp only [reduceCtorEq, false_iff, not_and]
      intro _ repeats
      obtain ⟨before, name, after, split, -, ⟨earlier, inside, equal⟩, -⟩ := repeats
      rw [split] at distinct
      obtain ⟨-, -, apart⟩ := List.pairwise_append.mp distinct
      simp [apart earlier inside name List.mem_cons_self] at equal
    | some name =>
      simp only [Except.error.injEq]
      obtain ⟨before, after, split, fresh, again⟩ := firstRepeatedSome.mp repeated
      constructor
      · intro equal
        exact ⟨given, before, name, after, split, (firstRepeatedNone.mp fresh).2,
          by simpa using again, equal.symm⟩
      · intro repeats
        obtain ⟨-, others, other, rest, split, distinct, again, equal⟩ := repeats
        have same : firstRepeated? (sameAt path) [] (names entries) = some other :=
          firstRepeatedSome.mpr
            ⟨others, rest, split, firstRepeatedNone.mpr ⟨by simp, distinct⟩, by simpa using again⟩
        rw [repeated] at same
        cases same
        exact equal.symm

theorem checkValuesError {path : OptionPath} {entries : Options} {error : DefinitionError} :
    checkValues path entries = .error error ↔
      ∃ before name value after, entries = before ++ (name, value) :: after ∧
        (∀ entry ∈ before, entry.2.Held (!path.isEmpty)) ∧
        checkValue (path ++ [name]) (!path.isEmpty) value = .error error := by
  induction entries with
  | nil => simp [checkValues]
  | cons entry rest ih =>
    obtain ⟨name, value⟩ := entry
    rw [checkValues, thenError, ih, OptionValue.checkValueOk (by simp)]
    constructor
    · intro refused
      rcases refused with refused | ⟨held, before, other, inner, after, split, clean, refused⟩
      · exact ⟨[], name, value, rest, rfl, by simp, refused⟩
      · subst split
        refine ⟨(name, value) :: before, other, inner, after, rfl, ?_, refused⟩
        exact List.forall_mem_cons.mpr ⟨held, clean⟩
    · intro refusal
      obtain ⟨before, other, inner, after, split, clean, refused⟩ := refusal
      cases before with
      | nil =>
        cases split
        exact .inl refused
      | cons first before =>
        obtain ⟨same, tail⟩ := List.cons.inj split
        subst same
        obtain ⟨held, clean⟩ := List.forall_mem_cons.mp clean
        exact .inr ⟨held, before, other, inner, after, tail, clean, refused⟩

theorem checkAtError {path : OptionPath} {entries : Options} {error : DefinitionError} :
    checkAt path entries = .error error ↔
      FaultAt path entries error ∨
      ∃ before name inner after, entries = before ++ (name, .map inner) :: after ∧
        Named (sameAt path) entries ∧ (∀ entry ∈ before, entry.2.Held (!path.isEmpty)) ∧
        checkAt (path ++ [name]) inner = .error error := by
  rw [checkAt, thenError, checkNamesError, checkNamesOk, checkValuesError]
  constructor
  · intro refused
    rcases refused with (⟨blank, equal⟩ | ⟨given, before, name, after, split, distinct, again, equal⟩) |
      ⟨named, before, name, value, after, split, clean, refused⟩
    · exact .inl (equal ▸ .unnamed blank)
    · exact .inl (equal ▸ .repeated given split distinct again)
    · cases value with
      | flag =>
        simp only [checkValue] at refused
        split at refused
        · rename_i inside
          cases refused
          exact .inl (.valueless (by simpa using inside) named split clean)
        · cases refused
      | float value =>
        simp only [checkValue] at refused
        split at refused
        · cases refused
        · rename_i beyond
          cases refused
          exact .inl (.infinite named split clean (by simpa using beyond))
      | map inner =>
        rw [checkAtMap (by simp)] at refused
        exact .inr ⟨before, name, inner, after, split, named, clean, refused⟩
      | text _ | integer _ | boolean _ => cases refused
  · intro refused
    rcases refused with fault | ⟨before, name, inner, after, split, named, clean, refused⟩
    · cases fault with
      | unnamed blank => exact .inl (.inl ⟨blank, rfl⟩)
      | repeated given split distinct again =>
        exact .inl (.inr ⟨given, _, _, _, split, distinct, again, rfl⟩)
      | valueless below named split clean =>
        exact .inr ⟨named, _, _, _, _, split, clean, by simp [checkValue, below]⟩
      | infinite named split clean beyond =>
        exact .inr ⟨named, _, _, _, _, split, clean, by simp [checkValue, beyond]⟩
    · rw [← checkAtMap (by simp)] at refused
      exact .inr ⟨named, before, name, .map inner, after, split, clean, refused⟩

theorem refusedBelow {options : Options} {error : DefinitionError} (value : OptionValue) :
    ∀ {path : OptionPath} {entries : Options}, value = .map entries →
      Leads options path entries → checkAt path entries = .error error →
      ∃ target level, Leads options target level ∧ FaultAt target level error := by
  -- The way already gone is in `path` and `entries`, which grow as the induction goes into a map.
  induction value using OptionValue.inductOn with
  | flag | text _ | integer _ | float _ | boolean _ => nofun
  | map entries ih =>
    intro path _ same leads refused
    cases same
    rcases checkAtError.mp refused with
      fault | ⟨before, name, inner, after, split, named, clean, further⟩
    · exact ⟨path, entries, leads, fault⟩
    · subst split
      exact ih (name, .map inner) (by simp) rfl (leads.into named clean) further

theorem refusedAbove {options entries : Options} {path : OptionPath} {error : DefinitionError}
    (leads : Leads options path entries) (refused : checkAt path entries = .error error) :
    check options = .error error := by
  induction leads with
  | top => exact refused
  | into outer named clean ih =>
    exact ih (checkAtError.mpr (.inr ⟨_, _, _, _, rfl, named, clean, refused⟩))

theorem checkError {options : Options} {error : DefinitionError} :
    check options = .error error ↔
      ∃ path entries, Leads options path entries ∧ FaultAt path entries error := by
  constructor
  · intro refused
    exact refusedBelow (.map options) rfl .top refused
  · intro led
    obtain ⟨path, entries, leads, fault⟩ := led
    exact refusedAbove leads (checkAtError.mpr (.inl fault))

/-- The values of the options and of every map inside them, each rule said for all depths at once. -/
structure Throughout (insideMap : Bool) (options : Options) : Prop where
  given : insideMap = true → ∀ entry ∈ options, entry.2 ≠ .flag
  maps : ∀ entries, MapWithin options entries →
    Named (· == ·) entries ∧ ∀ entry ∈ entries, entry.2 ≠ .flag
  finite : ∀ entries, entries = options ∨ MapWithin options entries →
    ∀ name value, (name, .float value) ∈ entries → Decimal.isFinite value = true

theorem throughoutInside {options entries : Options} {insideMap : Bool} {name : String}
    (whole : Throughout insideMap options) (inside : (name, .map entries) ∈ options) :
    Throughout true entries where
  given _ := (whole.maps entries (.here inside)).2
  maps inner deep := whole.maps inner (.deeper inside deep)
  finite inner place := by
    rcases place with same | deep
    · subst same
      exact whole.finite inner (.inr (.here inside))
    · exact whole.finite inner (.inr (.deeper inside deep))

theorem heldOfThroughout (value : OptionValue) :
    ∀ {options : Options} {insideMap : Bool} {name : String}, Throughout insideMap options →
      (name, value) ∈ options → value.Held insideMap := by
  induction value using OptionValue.inductOn with
  | flag =>
    intro options insideMap name whole inside
    cases insideMap with
    | false => exact .flag
    | true => exact absurd rfl (whole.given rfl _ inside)
  | text value => exact fun _ _ => .text value
  | integer value => exact fun _ _ => .integer value
  | boolean value => exact fun _ _ => .boolean value
  | float value => exact fun whole inside => .float (whole.finite _ (.inl rfl) _ value inside)
  | map entries ih =>
    intro options insideMap name whole inside
    obtain ⟨named, -⟩ := whole.maps entries (.here inside)
    exact .map named fun entry member => ih entry member (throughoutInside whole inside) member

theorem heldThroughout {options : Options} {insideMap : Bool} :
    (∀ entry ∈ options, entry.2.Held insideMap) ↔ Throughout insideMap options := by
  constructor
  · intro held
    refine ⟨?_, ?_, ?_⟩
    · intro inside entry member
      subst inside
      exact OptionValue.heldGiven (held entry member)
    · intro entries within
      obtain ⟨named, values⟩ := heldWithin held within
      exact ⟨named, fun entry member => OptionValue.heldGiven (values entry member)⟩
    · intro entries place name value member
      have finite : ∀ {insideMap}, (OptionValue.float value).Held insideMap →
          Decimal.isFinite value = true := by
        intro _ float
        cases float with
        | float finite => exact finite
      rcases place with same | within
      · subst same
        exact finite (held _ member)
      · exact finite ((heldWithin held within).2 _ member)
  · intro whole entry member
    exact heldOfThroughout entry.2 whole member

/-- Options pass exactly if the rules hold at every depth. Otherwise the error is that of the first
fault on the way down, and its text shows the names on that way with points between them. -/
theorem errorLeadsToFirstFault (options : Options) :
    (check options = .ok () ↔
      Named Text.sameLetters options ∧
      (∀ entries, MapWithin options entries →
        Named (· == ·) entries ∧ ∀ entry ∈ entries, entry.2 ≠ .flag) ∧
      ∀ entries, entries = options ∨ MapWithin options entries →
        ∀ name value, (name, .float value) ∈ entries → Decimal.isFinite value = true) ∧
    (∀ error, check options = .error error ↔
      ∃ path entries, Leads options path entries ∧ FaultAt path entries error) ∧
    ∀ path : OptionPath,
      (DefinitionError.duplicateOption path).message =
        "Option '" ++ ".".intercalate path ++ "' is specified more than once" ∧
      (∀ fault, (DefinitionError.invalidOptionValue path fault).message =
        "Invalid value for option '" ++ ".".intercalate path ++ "': " ++ fault.text) ∧
      (NamePlace.optionKey path).text = "key of option '" ++ ".".intercalate path ++ "'" := by
  refine ⟨?_, fun _ => checkError, fun path => ⟨rfl, fun _ => rfl, rfl⟩⟩
  rw [checkOk, heldThroughout]
  constructor
  · intro held
    obtain ⟨named, whole⟩ := held
    exact ⟨named, whole.maps, whole.finite⟩
  · intro rules
    obtain ⟨named, maps, finite⟩ := rules
    exact ⟨named, nofun, maps, finite⟩

/-- The map behind the flag has an empty key, and the one before it two keys that differ in case. -/
theorem flagTwoMapsDown :
    let log : Options := [("all", .boolean true), ("level", .flag)]
    let compaction : Options := [("class", .text "X"), ("log", .map log)]
    let options : Options :=
      [("COMPACT STORAGE", .flag), ("caching", .map [("keys", .integer 3), ("KEYS", .integer 2)]),
        ("compaction", .map compaction), ("compression", .map [("", .flag)])]
    check options = .error (.invalidOptionValue ["compaction", "log", "level"] .flagInMap) ∧
      (DefinitionError.invalidOptionValue ["compaction", "log", "level"] .flagInMap).message =
        "Invalid value for option 'compaction.log.level': a map entry needs a value" := by
  intro log compaction options
  obtain ⟨-, refused, shown⟩ := errorLeadsToFirstFault options
  have keys : Named (· == ·) [("keys", .integer 3), ("KEYS", .integer 2)] :=
    ⟨by simp [names], by simp [names]⟩
  have caching : (OptionValue.map [("keys", .integer 3), ("KEYS", .integer 2)]).Held false :=
    .map keys (by simp [OptionValue.Held.integer])
  have outer : Named (sameAt []) options := ⟨by simp [options, names], by decide⟩
  have middle : Named (sameAt ["compaction"]) compaction :=
    ⟨by simp [compaction, names], by decide⟩
  have inner : Named (sameAt ["compaction", "log"]) log := ⟨by simp [log, names], by decide⟩
  have first : Leads options ["compaction"] compaction :=
    @Leads.into _ [] [_, _] _ _ _ .top outer (by simp [OptionValue.Held.flag, caching])
  have second : Leads options ["compaction", "log"] log :=
    @Leads.into _ ["compaction"] [_] _ _ _ first middle (by simp [OptionValue.Held.text])
  have fault : FaultAt ["compaction", "log"] log
      (.invalidOptionValue ["compaction", "log", "level"] .flagInMap) :=
    @FaultAt.valueless _ _ [_] _ _ (by simp) inner rfl (by simp [OptionValue.Held.boolean])
  exact ⟨(refused _).mpr ⟨_, log, second, fault⟩, (shown _).2.1 .flagInMap⟩

end CqlSchema.Options

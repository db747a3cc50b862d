import CqlSchema.Proofs.Name.Meaning

/-! A type given by names in double quotes alone. The reader puts both names into one string and
looks that up among the words for types, the printer takes the string apart at its first point.
What the quotes protect is therefore the first name as long as it has no point, and a name alone as
long as it spells no word for types. -/
namespace CqlSchema

namespace QualifiedName

def quoted (name : QualifiedName) : Text :=
  match name.keyspace with
  | some keyspace => Text.enclosed '"' keyspace.toList ++ '.' :: Text.enclosed '"' name.name.toList
  | none => Text.enclosed '"' name.name.toList

def spelled (name : QualifiedName) : Text :=
  match name.keyspace with
  | some keyspace => keyspace.toList ++ '.' :: name.name.toList
  | none => name.name.toList

/-- What stands first: the keyspace, or the name where there is none. -/
def front (name : QualifiedName) : String := name.keyspace.getD name.name

end QualifiedName

namespace DataType

theorem spellingQuoted (name : QualifiedName) : Spelling name.quoted name.spelled := by
  obtain ⟨keyspace, name⟩ := name
  cases keyspace with
  | none => exact .last (.quoted name.toList)
  | some keyspace => exact .dotted (.quoted keyspace.toList) (.last (.quoted name.toList))

theorem ofTextSpelling {written spelled : Text} (name : Spelling written spelled) :
    ofText written = ofParts spelled none := by
  have read := readNameWritten name (Text.avoidsNil extendsName)
  have start := spellingStart name []
  rw [List.append_nil] at read start
  have ended : Text.skipBlanks [] = [] := blanksSkipped blanksNil
  simp only [ofText, readType, start, read, ended]
  cases ofParts spelled none with
  | ok type => simp [Except.map, ended]
  | error fault => rfl

theorem pointLowercased (text : Text) :
    ∀ before, '.' ∈ text → '.' ∈ Text.lowercaseAfter before text := by
  induction text with
  | nil => simp
  | cons c rest ih =>
    intro before inside
    rw [Text.lowercaseAfter, List.mem_append]
    rcases List.mem_cons.mp inside with rfl | behind
    · have point : Text.lowercaseAt before '.' rest = ['.'] := by
        rw [Text.lowercaseAt, if_neg (by decide), if_neg (by decide)]
        decide
      exact .inl (by rw [point]; simp)
    · exact .inr (ih _ behind)

theorem pointedFree {spelled : Text} (point : '.' ∈ spelled) : key spelled ∉ typeWords := by
  -- Lowercase keeps the point, and no word for types has one.
  intro taken
  have pointless : ∀ word ∈ typeWords, '.' ∉ word.toList := by decide
  have inside : '.' ∈ (key spelled).toList := by
    rw [key, String.toList_ofList]
    exact pointLowercased spelled [] point
  exact pointless _ taken inside

theorem definedPointless {name : Text} (plain : '.' ∉ name) :
    definedName (String.ofList name) = ⟨none, String.ofList name⟩ := by
  have none : name.dropWhile (· != '.') = [] := by
    rw [List.dropWhile_eq_nil_iff]
    intro c inside
    exact bne_iff_ne.mpr (ne_of_mem_of_not_mem inside plain)
  simp [definedName, none]

theorem definedPointed {before : Text} (plain : '.' ∉ before) (behind : Text) :
    definedName (String.ofList (before ++ '.' :: behind)) =
      ⟨some (String.ofList before), String.ofList behind⟩ := by
  have run : ∀ c ∈ before, (c != '.') = true := fun c inside =>
    bne_iff_ne.mpr (ne_of_mem_of_not_mem inside plain)
  have stop : Text.Avoids (· != '.') ('.' :: behind) := by simp
  simp [definedName, Text.takeRun run stop, Text.dropRun run stop]

theorem definedSpelled (name : QualifiedName) :
    definedName (String.ofList name.spelled) = name ↔ '.' ∉ name.front.toList := by
  obtain ⟨keyspace, name⟩ := name
  cases keyspace with
  | none =>
    refine ⟨fun same point => ?_, fun plain => ?_⟩
    · obtain ⟨before, behind, whole, plain⟩ := List.eq_append_cons_of_mem point
      have found := definedPointed plain behind
      rw [← whole] at found
      cases same.symm.trans found
    · calc
        definedName (String.ofList name.toList) = ⟨none, String.ofList name.toList⟩ :=
          definedPointless plain
        _ = ⟨none, name⟩ := by rw [String.ofList_toList]
  | some keyspace =>
    refine ⟨fun same point => ?_, fun plain => ?_⟩
    · obtain ⟨before, behind, whole, plain⟩ := List.eq_append_cons_of_mem point
      have found := definedPointed plain (behind ++ '.' :: name.toList)
      have spelled : before ++ '.' :: (behind ++ '.' :: name.toList) =
          QualifiedName.spelled ⟨some keyspace, name⟩ := by
        have front : keyspace.toList = before ++ '.' :: behind := whole
        simp [QualifiedName.spelled, front]
      rw [spelled, same, QualifiedName.mk.injEq, Option.some.injEq] at found
      rw [found.1, QualifiedName.front, Option.getD_some, String.toList_ofList] at point
      exact plain point
    · calc
        definedName (String.ofList (keyspace.toList ++ '.' :: name.toList)) =
            ⟨some (String.ofList keyspace.toList), String.ofList name.toList⟩ :=
          definedPointed plain name.toList
        _ = ⟨some keyspace, name⟩ := by rw [String.ofList_toList, String.ofList_toList]

theorem spelledFree (name : QualifiedName) :
    key name.spelled ∉ typeWords ↔ (name.keyspace = none → key name.name.toList ∉ typeWords) := by
  obtain ⟨keyspace, name⟩ := name
  cases keyspace with
  | none => simp [QualifiedName.spelled]
  | some keyspace =>
    have free : key (keyspace.toList ++ '.' :: name.toList) ∉ typeWords := pointedFree (by simp)
    simp [QualifiedName.spelled, free]

theorem parseSpelled {name : QualifiedName} {type : DataType} :
    parse (String.ofList name.quoted) = .ok type ↔ Denotes name.spelled none type := by
  rw [parseOk, String.toList_ofList, ofTextSpelling (spellingQuoted name)]
  exact ⟨ofPartsDenotes (by simp), ofPartsDenoted⟩

theorem constructorAlone {spelled : Text} {type : DataType}
    (word : key spelled ∈ constructorWords) : ¬Denotes spelled none type := by
  intro meaning
  cases meaning with
  | @native type same =>
    rw [same] at word
    revert word
    cases type <;> decide
  | defined free => exact free (memTypeWords.mpr (.inr word))

theorem parseRefused {input : String} (refused : ∀ type, parse input ≠ .ok type) :
    ∃ fault, parse input = .error ⟨input, fault⟩ := by
  cases read : ofText input.toList with
  | ok type => exact absurd (parseOk.mpr read) (refused type)
  | error fault => exact ⟨fault, by simp [parse, read]⟩

theorem quotedNameKeptUnless (name : QualifiedName) :
    ((∃ spelled, parse (String.ofList name.quoted) = .ok (defined spelled) ∧
        QualifiedName.denoted? (defined spelled).text = some name) ↔
      '.' ∉ name.front.toList ∧ (name.keyspace = none → key name.name.toList ∉ typeWords)) ∧
    (key name.spelled ∉ typeWords →
      parse (String.ofList name.quoted) = .ok (defined (String.ofList name.spelled)) ∧
      QualifiedName.denoted? (defined (String.ofList name.spelled)).text =
        some (definedName (String.ofList name.spelled))) ∧
    (∀ type : NativeType, key name.spelled = type.name →
      parse (String.ofList name.quoted) = .ok (native type)) ∧
    (key name.spelled ∈ constructorWords →
      ∃ fault, parse (String.ofList name.quoted) = .error ⟨String.ofList name.quoted, fault⟩) := by
  have printed : ∀ spelled : String,
      QualifiedName.denoted? (defined spelled).text = some (definedName spelled) := by
    intro spelled
    rw [textDefined, QualifiedName.denotedText]
  refine ⟨⟨?_, ?_⟩, fun free => ⟨parseSpelled.mpr (.defined free), printed _⟩,
    fun type word => parseSpelled.mpr (.native word), fun word => ?_⟩
  · intro kept
    obtain ⟨spelled, read, denoted⟩ := kept
    have meaning := parseSpelled.mp read
    rw [printed, Option.some.injEq] at denoted
    cases meaning with
    | defined free => exact ⟨(definedSpelled name).mp denoted, (spelledFree name).mp free⟩
  · intro safe
    have read := parseSpelled.mpr (.defined ((spelledFree name).mpr safe.2))
    refine ⟨String.ofList name.spelled, read, ?_⟩
    rw [printed, (definedSpelled name).mpr safe.1]
  · exact parseRefused fun type read => constructorAlone word (parseSpelled.mp read)

theorem typeWordBehindKeyspaceKept :
    let behind : QualifiedName := ⟨some "a\"b", "Text"⟩
    let alone : QualifiedName := ⟨none, "Text"⟩
    let applied : QualifiedName := ⟨none, "LIST"⟩
    let pointed : QualifiedName := ⟨none, "a.b"⟩
    (∃ spelled, parse (String.ofList behind.quoted) = .ok (defined spelled) ∧
      QualifiedName.denoted? (defined spelled).text = some behind) ∧
    parse (String.ofList alone.quoted) = .ok (native .text) ∧
    (∃ fault, parse (String.ofList applied.quoted) =
      .error ⟨String.ofList applied.quoted, fault⟩) ∧
    parse (String.ofList pointed.quoted) = .ok (defined (String.ofList pointed.spelled)) :=
  ⟨(quotedNameKeptUnless ⟨some "a\"b", "Text"⟩).1.mpr ⟨by decide, by simp⟩,
    (quotedNameKeptUnless ⟨none, "Text"⟩).2.2.1 .text (by decide),
    (quotedNameKeptUnless ⟨none, "LIST"⟩).2.2.2 (by decide),
    ((quotedNameKeptUnless ⟨none, "a.b"⟩).2.1 (pointedFree (by decide))).1⟩

theorem pointInQuotesMovesType :
    QualifiedName.quoted ⟨none, "a.b"⟩ = "\"a.b\"".toList ∧
    parse "\"a.b\"" = .ok (defined "a.b") ∧
    (defined "a.b").text = "a.b".toList ∧
    QualifiedName.denoted? (defined "a.b").text = some ⟨some "a", "b"⟩ := by
  have printed : (defined "a.b").text = "a.b".toList := by
    rw [textDefined]
    decide
  refine ⟨by decide, by cbv, printed, ?_⟩
  rw [textDefined, QualifiedName.denotedText]
  decide

end DataType
end CqlSchema

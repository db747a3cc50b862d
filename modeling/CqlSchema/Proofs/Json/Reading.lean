import CqlSchema.Proofs.Json.Number
import CqlSchema.Proofs.Json.Strings
import Mathlib.Data.List.Forall2

/-! Written values read back. A text reads as a value if the reader finds the value in front of
whatever cannot go on with a number, and takes no more than the text. -/
namespace CqlSchema.Json

structure Reads (text : Text) (value : Json) : Prop where
  start : ∃ c rest, text = c :: rest ∧ isSpace c = false ∧ c ≠ ']'
  read : ∀ (bound : Nat) (rest : Text), text.length < bound → Text.Avoids extendsNumber rest →
    readValue bound (text ++ rest) = some (value, rest)

theorem skipNone {c : Char} (solid : isSpace c = false) (rest : Text) :
    skipSpace (c :: rest) = c :: rest := by
  simp [skipSpace, solid]

theorem Reads.skip {text : Text} {value : Json} (reads : Reads text value) (rest : Text) :
    skipSpace (text ++ rest) = text ++ rest ∧ (text ++ rest).head? ≠ some ']' := by
  obtain ⟨c, more, rfl, solid, noBracket⟩ := reads.start
  exact ⟨skipNone solid _, by simpa using noBracket⟩

theorem Reads.ofStart {c : Char} {more : Text} {value : Json} (solid : isSpace c = false)
    (noBracket : c ≠ ']')
    (read : ∀ (bound : Nat) (rest : Text), more.length < bound → Text.Avoids extendsNumber rest →
      readValue (bound + 1) (c :: (more ++ rest)) = some (value, rest)) :
    Reads (c :: more) value where
  start := ⟨c, more, rfl, solid, noBracket⟩
  read := by
    rintro (_ | bound) rest long stop
    · simp at long
    · exact read bound rest (by simpa using long) stop

theorem readsNull : Reads "null".toList .null :=
  .ofStart (by decide) (by decide) fun _ _ _ _ => rfl

theorem readsBoolean (value : Bool) : Reads (writeBoolean value) (.boolean value) := by
  cases value
  · exact .ofStart (by decide) (by decide) fun _ _ _ _ => rfl
  · exact .ofStart (by decide) (by decide) fun _ _ _ _ => rfl

theorem readsString (value : String) : Reads (writeString value) (.string (.ok value)) := by
  refine .ofStart (by decide) (by decide) fun bound rest _ _ => ?_
  have behind := readStringWritten value rest
  rw [readValue, skipNone (by decide), List.append_assoc]
  simp only [List.singleton_append, behind, Option.map_some]

theorem readsNumber {parts : NumberParts} (formed : parts.WellFormed) {value : Json}
    (meant : numberOfParts parts.negative parts.whole parts.fraction parts.power = some value) :
    Reads parts.text value := by
  obtain ⟨c, more, shape, other⟩ : ∃ c more, parts.text = c :: more ∧
      (c = '-' ∨ c.isDigit = true) := by
    obtain ⟨c, more, shape⟩ := List.exists_cons_of_ne_nil formed.filled
    have digit := formed.whole c (by simp [shape])
    cases sign : parts.negative
    · exact ⟨c, _, by simp [NumberParts.text, sign, Decimal.signed, shape]; rfl, .inr digit⟩
    · exact ⟨'-', _, by simp [NumberParts.text, sign, Decimal.signed]; rfl, .inl rfl⟩
  have apart : ∀ d : Char, d.isDigit = false → d ≠ '-' → c ≠ d := by
    rintro d noDigit noSign rfl
    rcases other with rfl | digit
    · exact noSign rfl
    · exact absurd digit (by simp [noDigit])
  have solid : isSpace c = false := by
    simp [isSpace, apart ' ', apart '\t', apart '\n', apart '\x0d']
  rw [shape]
  refine .ofStart solid (apart ']' (by decide) (by decide)) fun bound rest _ stop => ?_
  have read := NumberParts.readNumberText formed stop
  rw [shape, meant, List.cons_append, Option.map_some] at read
  rw [readValue, skipNone solid]
  split <;> simp_all

theorem closeStops (c : Char) (rest : Text) (closes : c = ',' ∨ c = ']' ∨ c = '\x7d') :
    Text.Avoids extendsNumber (c :: rest) := by
  rcases closes with rfl | rfl | rfl <;> rw [Text.avoidsCons] <;> decide

def behindFirst (texts : List Text) : Text := texts.flatMap ([','] ++ ·)

theorem behindStops (texts : List Text) {c : Char} (rest : Text) (closes : c = ']' ∨ c = '\x7d') :
    Text.Avoids extendsNumber (behindFirst texts ++ c :: rest) := by
  cases texts with
  | nil => exact closeStops c rest (.inr closes)
  | cons text texts => exact closeStops ',' _ (.inl rfl)

theorem joinedFirst (text : Text) (texts : List Text) :
    Text.joined [','] (text :: texts) = text ++ behindFirst texts := rfl

theorem behindFirstCons (text : Text) (texts : List Text) :
    behindFirst (text :: texts) = ',' :: (text ++ behindFirst texts) := by
  simp [behindFirst]

theorem readItemsWritten {texts : List Text} {values : List Json}
    (reads : List.Forall₂ Reads texts values) (bound count : Nat) (rest : Text)
    (within : (behindFirst texts).length ≤ bound) (counted : (behindFirst texts).length < count) :
    readItems (readValue bound) count (behindFirst texts ++ ']' :: rest) = some (values, rest) := by
  induction reads generalizing count with
  | nil =>
    obtain ⟨count, rfl⟩ := Nat.exists_eq_add_of_lt counted
    rfl
  | @cons text value texts values first _ ih =>
    simp only [behindFirstCons, List.length_cons, List.length_append] at within counted
    obtain ⟨count, rfl⟩ : ∃ before, count = before + 1 := ⟨count - 1, by omega⟩
    have item := first.read bound _ (by omega) (behindStops texts rest (.inl rfl))
    have others := ih count (by omega) (by omega)
    rw [behindFirstCons, List.cons_append, List.append_assoc, readItems, skipNone (by decide)]
    simp only [item, others, Option.bind_eq_bind, Option.bind_some]

theorem readsArray {texts : List Text} {values : List Json}
    (reads : List.Forall₂ Reads texts values) : Reads (writeArray texts) (.array values) := by
  refine .ofStart (by decide) (by decide) fun bound rest long _ => ?_
  rw [readValue, skipNone (by decide)]
  cases reads with
  | nil => rfl
  | @cons text value texts values first others =>
    simp only [joinedFirst, List.length_append, List.length_singleton] at long
    have item := first.read bound _ (by omega) (behindStops texts rest (.inl rfl))
    have more := readItemsWritten others bound bound rest (by omega) (by omega)
    obtain ⟨skipped, noBracket⟩ := first.skip (behindFirst texts ++ ']' :: rest)
    simp only [joinedFirst, List.append_assoc, List.singleton_append, skipped]
    split
    · rename_i same
      simp [same] at noBracket
    · simp only [item, more, Option.bind_eq_bind, Option.bind_some]

inductive MemberReads : String × Text → JsonString × Json → Prop
  | named (name : String) {text : Text} {value : Json} :
    Reads text value → MemberReads (name, text) (.ok name, value)

def memberText (member : String × Text) : Text := writeMember member.1 member.2

theorem readMemberWritten {written : String × Text} {read : JsonString × Json}
    (reads : MemberReads written read) (bound : Nat) (rest : Text)
    (within : (memberText written).length ≤ bound) (stop : Text.Avoids extendsNumber rest) :
    readMember (readValue bound) (memberText written ++ rest) = some (read, rest) := by
  obtain ⟨name, reads⟩ := reads
  rename_i text value
  simp only [memberText, writeMember, writeString, List.length_append, List.length_cons] at within
  have inside := readStringWritten name (':' :: (text ++ rest))
  have item := reads.read bound rest (by omega) stop
  simp only [memberText, writeMember, writeString, List.cons_append, List.append_assoc,
    List.nil_append]
  rw [readMember, skipNone (by decide)]
  simp only [inside, skipNone (c := ':') (by decide), item, Option.map_some]

theorem readMembersWritten {written : List (String × Text)} {read : List (JsonString × Json)}
    (reads : List.Forall₂ MemberReads written read) (bound count : Nat) (rest : Text)
    (within : (behindFirst (written.map memberText)).length ≤ bound)
    (counted : (behindFirst (written.map memberText)).length < count) :
    readMembers (readValue bound) count (behindFirst (written.map memberText) ++ '\x7d' :: rest) =
      some (read, rest) := by
  induction reads generalizing count with
  | nil =>
    obtain ⟨count, rfl⟩ := Nat.exists_eq_add_of_lt counted
    rfl
  | @cons member value written read first _ ih =>
    simp only [List.map_cons, behindFirstCons, List.length_cons, List.length_append]
      at within counted
    obtain ⟨count, rfl⟩ : ∃ before, count = before + 1 := ⟨count - 1, by omega⟩
    have item := readMemberWritten first bound _ (by omega)
      (behindStops (written.map memberText) rest (.inr rfl))
    have others := ih count (by omega) (by omega)
    rw [List.map_cons, behindFirstCons, List.cons_append, List.append_assoc, readMembers,
      skipNone (by decide)]
    simp only [item, others, Option.bind_eq_bind, Option.bind_some]

theorem readsObject {written : List (String × Text)} {read : List (JsonString × Json)}
    (reads : List.Forall₂ MemberReads written read) : Reads (writeObject written) (.object read) := by
  have shape : writeObject written =
      '\x7b' :: (Text.joined [','] (written.map memberText) ++ ['\x7d']) := rfl
  rw [shape]
  refine .ofStart (by decide) (by decide) fun bound rest long _ => ?_
  rw [readValue, skipNone (by decide)]
  cases reads with
  | nil => rfl
  | @cons member value written read first others =>
    simp only [List.map_cons, joinedFirst, List.length_append, List.length_singleton] at long
    have item := readMemberWritten first bound _ (by omega)
      (behindStops (written.map memberText) rest (.inr rfl))
    have more := readMembersWritten others bound bound rest (by omega) (by omega)
    simp only [List.map_cons, joinedFirst, List.append_assoc, List.singleton_append]
    obtain ⟨behind, shape⟩ : ∃ behind, memberText member = '"' :: behind := ⟨_, rfl⟩
    rw [shape, List.cons_append] at item ⊢
    rw [skipNone (by decide)]
    split
    · rename_i same
      cases same
    · simp only [item, more, Option.bind_eq_bind, Option.bind_some]

theorem readWhole {text : Text} {value : Json} (reads : Reads text value) :
    read? text = some value := by
  have whole := reads.read _ _ (Nat.lt_succ_self text.length) (Text.avoidsNil extendsNumber)
  rw [List.append_nil] at whole
  rw [read?, whole]
  rfl

end CqlSchema.Json

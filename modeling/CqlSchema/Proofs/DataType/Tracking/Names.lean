import CqlSchema.Proofs.DataType.Reading
import CqlSchema.Proofs.DataType.Tracking

/-! Walks over blanks, quoted names, words and whole names track the readers of these. A loop is
followed by induction on the text that is left, which its rounds outnumber. -/
namespace CqlSchema.DataType

theorem wordWidth {c : Char} (inWord : isWordChar c = true) : c.utf8Size = 1 := by
  rw [Char.utf8Size_eq_one_iff, UInt32.le_iff_toNat_le]
  simp only [isWordChar, Char.isAlphanum, Char.isAlpha, Char.isUpper, Char.isLower, Char.isDigit,
    Bool.or_eq_true, Bool.and_eq_true, decide_eq_true_eq, beq_iff_eq] at inWord
  change c.toNat ≤ 127
  change (((65 ≤ c.toNat ∧ c.toNat ≤ 90) ∨ (97 ≤ c.toNat ∧ c.toNat ≤ 122)) ∨
    (48 ≤ c.toNat ∧ c.toNat ≤ 57)) ∨ c = '_' at inWord
  rcases inWord with letter | rfl
  · omega
  · decide

theorem tracksUnclosed {scene : Scene} {deepest : Nat} (rounds : Nat) :
    Tracks (Walk.passEnclosed (rounds + 1)) scene deepest []
      (.error (.refused .unclosedName)) :=
  tracksThen tracksPeek (tracksThrow _)

theorem startsOtherwise {c : Char} {text : Text} (other : ∀ rest, text ≠ c :: rest) :
    text.head? ≠ some c := by
  intro first
  obtain ⟨rest, same⟩ := List.head?_eq_some_iff.mp first
  exact other rest same

theorem elimMapped {α β : Type} {reason : Stop} (f : α → β) (found : Option α) :
    (found.map f).elim (Except.error reason) Except.ok =
      (found.elim (Except.error reason) Except.ok).map f := by
  cases found <;> rfl

theorem quotedResult (rest : Text) :
    (readSegment ('"' :: rest)).mapError Stop.refused =
      (Text.readEnclosed '"' rest).elim (.error (.refused .unclosedName)) .ok := by
  cases found : Text.readEnclosed '"' rest <;> simp only [readSegment, found] <;> rfl

theorem wordResult {ahead : Text} (other : ahead.head? ≠ some '"') :
    (readSegment ahead).mapError Stop.refused =
      if (ahead.takeWhile isWordChar).isEmpty then .error (.refused .nameExpected)
        else .ok (ahead.takeWhile isWordChar, ahead.dropWhile isWordChar) := by
  unfold readSegment
  split
  · exact absurd rfl other
  · simp only
    split <;> rfl

section Readers

variable {scene : Scene} {deepest : Nat} {ahead : Text} (within : scene.level ≤ deepest)
include within

theorem tracksPassWhile {p : Char → Bool} {width : Char → Nat}
    (fits : ∀ c, p c = true → c.utf8Size = width c) {rounds : Nat}
    (enough : ahead.length ≤ rounds) :
    Tracks (Walk.passWhile p width (rounds + 1)) scene deepest ahead
      (.ok (ahead.takeWhile p, ahead.dropWhile p)) := by
  induction ahead generalizing rounds with
  | nil => exact tracksThen tracksPeek (tracksPure [])
  | cons c rest ih =>
    refine tracksThen tracksPeek ?_
    by_cases inside : p c = true
    · obtain ⟨rounds, rfl⟩ := Nat.exists_eq_add_one.mpr (Nat.lt_of_lt_of_le rest.length.succ_pos enough)
      have passed := ih (Nat.le_of_succ_le_succ enough)
      simp only [List.head?_cons, inside, if_true, List.takeWhile_cons_of_pos,
        List.dropWhile_cons_of_pos]
      exact tracksThen (tracksMove (fits c inside) within) (tracksMap (c :: ·) passed)
    · simpa [inside] using tracksPure []

theorem tracksBlanks :
    Tracks Walk.passBlanks scene deepest ahead (.ok ((), Text.skipBlanks ahead)) :=
  tracksRounds fun _ enough =>
    tracksMap (fun _ => ()) (tracksPassWhile within (fun _ _ => rfl) enough)

theorem tracksPassed {c : Char} {behind : Text} (small : c.utf8Size = 1)
    (found : Text.skipBlanks ahead = c :: behind) :
    Tracks (Walk.pass c) scene deepest ahead (.ok ((), behind)) := by
  refine tracksThen (tracksBlanks within) (tracksThen tracksPeek ?_)
  rw [found, List.head?_cons, if_pos rfl]
  exact tracksMove small within

theorem tracksUnexpected {c : Char} (other : (Text.skipBlanks ahead).head? ≠ some c) :
    Tracks (Walk.pass c) scene deepest ahead (.error (.expected c)) := by
  refine tracksThen (tracksBlanks within) (tracksThen tracksPeek ?_)
  rw [if_neg other]
  exact tracksThrow _

theorem tracksClosed (rounds : Nat) {behind : Text} (alone : behind.head? ≠ some '"') :
    Tracks (Walk.passEnclosed (rounds + 1)) scene deepest ('"' :: behind) (.ok ([], behind)) := by
  refine tracksThen tracksPeek (tracksThen (tracksAheadBy ['"'] (by decide)) ?_)
  rw [if_neg alone]
  exact tracksThen (tracksMove (by decide) within) (tracksPure [])

theorem tracksDoubled {rounds : Nat} {rest : Text} {result}
    (inner : Tracks (Walk.passEnclosed rounds) scene deepest rest result) :
    Tracks (Walk.passEnclosed (rounds + 1)) scene deepest ('"' :: '"' :: rest)
      (result.map fun (content, behind) => ('"' :: content, behind)) := by
  refine tracksThen tracksPeek (tracksThen (tracksAheadBy ['"'] (by decide)) ?_)
  exact tracksThen (tracksMoveBy ['"', '"'] (by decide) within) (tracksMap ('"' :: ·) inner)

theorem tracksUnquoted {rounds : Nat} {c : Char} {rest : Text} {result} (other : c ≠ '"')
    (inner : Tracks (Walk.passEnclosed rounds) scene deepest rest result) :
    Tracks (Walk.passEnclosed (rounds + 1)) scene deepest (c :: rest)
      (result.map fun (content, behind) => (c :: content, behind)) := by
  refine tracksThen tracksPeek ?_
  simp only [List.head?_cons, if_neg other]
  exact tracksThen (tracksMove rfl within) (tracksMap (c :: ·) inner)

theorem tracksEnclosed {rounds : Nat} (enough : ahead.length ≤ rounds) :
    Tracks (Walk.passEnclosed (rounds + 1)) scene deepest ahead
      ((Text.readEnclosed '"' ahead).elim (.error (.refused .unclosedName)) .ok) := by
  fun_induction Text.readEnclosed '"' ahead generalizing rounds with
  | case1 => exact tracksUnclosed rounds
  | case2 => exact tracksClosed within rounds (by simp)
  | case3 c other =>
    obtain ⟨rounds, rfl⟩ := Nat.exists_eq_add_one.mpr enough
    exact tracksUnquoted within other (tracksUnclosed rounds)
  | case4 rest ih =>
    simp only [List.length_cons] at enough
    obtain ⟨rounds, rfl⟩ := Nat.exists_eq_add_one.mpr (Nat.zero_lt_of_lt enough)
    rw [elimMapped]
    exact tracksDoubled within (ih (by omega))
  | case5 d rest other => exact tracksClosed within rounds (by simpa using other)
  | case6 c d rest other ih =>
    simp only [List.length_cons] at enough
    obtain ⟨rounds, rfl⟩ := Nat.exists_eq_add_one.mpr (Nat.zero_lt_of_lt enough)
    rw [elimMapped]
    exact tracksUnquoted within other (ih (by simpa using enough))

theorem tracksQuoted {rest : Text} :
    Tracks Walk.quoted scene deepest ('"' :: rest)
      ((Text.readEnclosed '"' rest).elim (.error (.refused .unclosedName)) .ok) :=
  tracksThen (tracksMove (by decide) within)
    (tracksRounds fun _ enough => tracksEnclosed within enough)

theorem tracksWord :
    Tracks Walk.word scene deepest ahead
      (if (ahead.takeWhile isWordChar).isEmpty then .error (.refused .nameExpected)
        else .ok (ahead.takeWhile isWordChar, ahead.dropWhile isWordChar)) := by
  refine tracksPlace fun start stands => tracksRounds fun _ enough => ?_
  refine tracksThen (tracksPassWhile within (fun _ => wordWidth) enough) (tracksPlace fun stop reached => ?_)
  rw [← List.takeWhile_append_dropWhile (p := isWordChar) (l := ahead)] at stands
  have moved := standsMoved stands reached
  -- Every character has a width, so the place is unchanged exactly if none was passed.
  by_cases empty : ahead.takeWhile isWordChar = []
  · rw [if_pos (by simp [moved, empty]), if_pos (by simp [empty])]
    exact tracksThrow _
  · have longer : String.utf8Len (ahead.takeWhile isWordChar) ≠ 0 := by simpa using empty
    rw [if_neg (by omega), if_neg (by simpa using empty)]
    exact tracksPure _

theorem tracksSegment :
    Tracks Walk.segment scene deepest ahead ((readSegment ahead).mapError .refused) := by
  refine tracksThen tracksPeek ?_
  by_cases quote : ahead.head? = some '"'
  · obtain ⟨rest, rfl⟩ := List.head?_eq_some_iff.mp quote
    rw [if_pos quote, quotedResult]
    exact tracksQuoted within
  · rw [if_neg quote, wordResult quote]
    exact tracksWord within

theorem tracksDotted {rounds : Nat} {segment rest : Text} {result}
    (first : readSegment ahead = .ok (segment, '.' :: rest))
    (tail : Tracks (Walk.segments rounds) scene deepest rest result) :
    Tracks (Walk.segments (rounds + 1)) scene deepest ahead
      (result.map fun (name, behind) => (segment ++ '.' :: name, behind)) := by
  have head : Tracks Walk.segment scene deepest ahead _ := tracksSegment within
  rw [first] at head
  exact tracksThen head (tracksThen tracksPeek (tracksThen (tracksMove (by decide) within)
    (tracksMap (segment ++ '.' :: ·) tail)))

theorem tracksSegments {rounds : Nat} (enough : ahead.length ≤ rounds) :
    Tracks (Walk.segments (rounds + 1)) scene deepest ahead
      ((readName ahead).mapError .refused) := by
  fun_induction readName ahead generalizing rounds with
  | case1 text fault refused =>
    have head : Tracks Walk.segment scene deepest text _ := tracksSegment within
    rw [refused] at head
    exact tracksStop head
  | case2 text segment rest first shorter fault refused ih =>
    obtain ⟨rounds, rfl⟩ := Nat.exists_eq_add_one.mpr (Nat.zero_lt_of_lt (shorter.trans_le enough))
    have tail : Tracks (Walk.segments (rounds + 1)) scene deepest rest _ := ih (by omega)
    rw [refused] at tail
    exact tracksDotted within first tail
  | case3 text segment rest first shorter name behind inner ih =>
    obtain ⟨rounds, rfl⟩ := Nat.exists_eq_add_one.mpr (Nat.zero_lt_of_lt (shorter.trans_le enough))
    have tail : Tracks (Walk.segments (rounds + 1)) scene deepest rest _ := ih (by omega)
    rw [inner] at tail
    exact tracksDotted within first tail
  | case4 text segment rest noPoint first =>
    have head : Tracks Walk.segment scene deepest text _ := tracksSegment within
    rw [first] at head
    refine tracksThen head (tracksThen tracksPeek ?_)
    rw [if_neg (startsOtherwise noPoint)]
    exact tracksPure segment

theorem tracksName :
    Tracks Walk.name scene deepest ahead
      ((readName (Text.skipBlanks ahead)).mapError .refused) :=
  tracksThen (tracksBlanks within) (tracksRounds fun _ enough => tracksSegments within enough)

end Readers

end CqlSchema.DataType

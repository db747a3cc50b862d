import CqlSchema.Proofs.DataType.Grammar
import CqlSchema.Proofs.Text.Following
import Mathlib

/-! The reader of types and the grammar agree. What is read derives, by induction on the nesting
that is still allowed; what derives is read, by induction on the derivation, with any text behind
it that cannot go on with a name or open a bracket. -/
namespace CqlSchema.DataType

def extendsName (c : Char) : Bool := isWordChar c || c == '"' || c == '.'

/-- Behind a type nothing goes on with its name or opens its brackets. -/
def Follows (behind : Text) : Prop :=
  Text.Avoids extendsName behind ∧ (Text.skipBlanks behind).head? ≠ some '<'

theorem blankNotWord {c : Char} (blank : Text.isBlank c = true) : isWordChar c = false := by
  by_contra word
  simp only [isWordChar, Char.isAlphanum, Char.isAlpha, Char.isUpper, Char.isLower, Char.isDigit,
    Bool.not_eq_false, Bool.or_eq_true, Bool.and_eq_true, decide_eq_true_eq, beq_iff_eq] at word
  simp only [Text.isBlank, Text.CodeRanges.holdsIff, Text.blankRanges, List.mem_cons,
    List.not_mem_nil, or_false, exists_eq_or_imp, exists_eq_left] at blank
  change (((65 ≤ c.toNat ∧ c.toNat ≤ 90) ∨ (97 ≤ c.toNat ∧ c.toNat ≤ 122)) ∨
    (48 ≤ c.toNat ∧ c.toNat ≤ 57)) ∨ c = '_' at word
  rcases word with letter | rfl
  · omega
  · revert blank; decide

theorem blankExtendsNot {c : Char} (blank : Text.isBlank c = true) : extendsName c = false := by
  have quote : c ≠ '"' := by rintro rfl; revert blank; decide
  have point : c ≠ '.' := by rintro rfl; revert blank; decide
  simp [extendsName, blankNotWord blank, quote, point]

theorem avoidsBlanks {blanks behind : Text} (all : Blanks blanks)
    (stop : Text.Avoids extendsName behind) : Text.Avoids extendsName (blanks ++ behind) := by
  cases blanks with
  | nil => exact stop
  | cons c rest => simpa using blankExtendsNot (all c (by simp))

theorem segmentRead {text spelled behind} (read : readSegment text = .ok (spelled, behind)) :
    ∃ written, text = written ++ behind ∧ Segment written spelled := by
  unfold readSegment at read
  split at read
  · split at read
    · rename_i enclosed
      cases read
      have whole := (Text.readEnclosedSource enclosed).1
      exact ⟨Text.enclosed '"' spelled, by simp [Text.enclosed, whole], .quoted spelled⟩
    · cases read
  · simp only at read
    split at read
    · cases read
    · rename_i filled
      cases read
      refine ⟨text.takeWhile isWordChar, List.takeWhile_append_dropWhile.symm, .word ?_ ?_⟩
      · simpa using filled
      · exact fun c inside => List.mem_takeWhile_imp inside

theorem readSegmentWritten {written spelled behind} (segment : Segment written spelled)
    (stop : Text.Avoids (fun c => isWordChar c || c == '"') behind) :
    readSegment (written ++ behind) = .ok (spelled, behind) := by
  cases segment with
  | quoted content =>
    have noQuote : behind.head? ≠ some '"' := by
      intro first
      simpa using stop '"' (Option.mem_def.mpr first)
    simp [readSegment, Text.enclosed, Text.readEnclosedDoubled '"' spelled behind noQuote]
  | word filled plain =>
    have ends : Text.Avoids isWordChar behind :=
      Text.avoidsMono (fun c inside => by simp [inside]) stop
    unfold readSegment
    split
    · rename_i rest opening
      cases written with
      | nil => exact absurd rfl filled
      | cons c more =>
        have first : c = '"' := (List.cons.inj opening).1
        have word := plain c (by simp)
        simp [first, isWordChar] at word
    · simp [Text.takeRun plain ends, Text.dropRun plain ends, filled]

theorem nameRead {text spelled behind} (read : readName text = .ok (spelled, behind)) :
    ∃ written, text = written ++ behind ∧ Spelling written spelled := by
  fun_induction readName text generalizing spelled with
  | case1 => cases read
  | case2 => cases read
  | case3 text segment rest found short name behind' inner ih =>
    cases read
    obtain ⟨first, whole, written⟩ := segmentRead found
    obtain ⟨more, tail, dotted⟩ := ih inner
    exact ⟨first ++ '.' :: more, by simp [whole, tail], .dotted written dotted⟩
  | case4 text segment rest noPoint found =>
    cases read
    obtain ⟨written, whole, segment⟩ := segmentRead found
    exact ⟨written, whole, .last segment⟩

theorem readNameWritten {written spelled behind} (name : Spelling written spelled)
    (stop : Text.Avoids extendsName behind) :
    readName (written ++ behind) = .ok (spelled, behind) := by
  induction name with
  | last segment =>
    have first := readSegmentWritten segment
      (Text.avoidsMono (fun c inside => by simp_all [extendsName]) stop)
    unfold readName
    split
    · rename_i failed
      simp [first] at failed
    · rename_i found
      cases first.symm.trans found
      simp [extendsName] at stop
    · rename_i found
      cases first.symm.trans found
      rfl
  | @dotted written content rest name segment more ih =>
    have first : readSegment (written ++ '.' :: (rest ++ behind)) =
        .ok (content, '.' :: (rest ++ behind)) := readSegmentWritten segment (by simp; decide)
    rw [List.append_assoc, List.cons_append]
    unfold readName
    split
    · rename_i failed
      simp [first] at failed
    · rename_i found
      cases first.symm.trans found
      simp [ih]
    · rename_i noPoint found
      cases first.symm.trans found
      exact absurd rfl (noPoint _)

theorem ofPartsDenotes {spelled arguments type} (filled : arguments ≠ some [])
    (made : ofParts spelled arguments = .ok type) : Denotes spelled arguments type := by
  unfold ofParts at made
  simp only at made
  split at made
  case h_1 word => cases made; exact .list word
  case h_2 word => cases made; exact .set word
  case h_3 word => cases made; exact .frozen word
  case h_4 word => cases made; exact .map word
  case h_5 elements word =>
    cases made
    cases elements with
    | nil => exact absurd rfl filled
    | cons first rest => exact .tuple word
  case h_12 list set frozen map tuple =>
    split at made
    · rename_i found
      cases made
      exact .native (NativeType.nameOfFound found).symm
    · rename_i missing
      cases made
      refine .defined fun taken => ?_
      rcases memTypeWords.mp taken with ⟨type, same⟩ | word
      · exact ofNameNone.mp missing type same
      · simp only [constructorWords, List.mem_cons, List.not_mem_nil, or_false] at word
        rcases word with word | word | word | word | word
        · exact list word
        · exact set word
        · exact map word
        · exact tuple word
        · exact frozen word
  all_goals cases made

theorem ofPartsDenoted {spelled arguments type} (meaning : Denotes spelled arguments type) :
    ofParts spelled arguments = .ok type := by
  unfold ofParts
  cases meaning with
  | list word | set word | frozen word | map word | tuple word =>
    unfold key at word
    simp [word]
  | @native type word =>
    unfold key at word
    cases type <;> simp [word, NativeType.name] <;> rfl
  | defined free =>
    have missing : NativeType.ofName? (key spelled) = none :=
      ofNameNone.mpr fun type same => free (memTypeWords.mpr (.inl ⟨type, same⟩))
    unfold key at free missing
    simp only
    split <;> simp_all [typeWords, constructorWords]

/-- What the reader takes off the front of a text derives what it reads. -/
def Faithful (item : Text → Except TypeFault (DataType × Text)) : Prop :=
  ∀ {text type behind}, item text = .ok (type, behind) →
    ∃ written, text = written ++ behind ∧ Derives written type

theorem faithfulShorter {item} (faithful : Faithful item) {text type behind}
    (read : item text = .ok (type, behind)) : behind.length < text.length := by
  obtain ⟨written, rfl, derivation⟩ := faithful read
  have := List.length_pos_iff.mpr (derivesFilled derivation)
  rw [List.length_append]
  omega

theorem moreRead {item} (faithful : Faithful item) {text types behind}
    (read : readMore item text = .ok (types, behind)) :
    ∃ written, text = written ++ behind ∧ DerivesMore written types := by
  fun_induction readMore item text generalizing types with
  | case1 text rest closing =>
    cases read
    obtain ⟨blanks, whole, blank⟩ := Text.skipBlanksSplit text
    exact ⟨blanks ++ ['>'], by rw [whole, closing]; simp, .close blank⟩
  | case2 => cases read
  | case3 => cases read
  | case4 text rest comma type behind' head shorter types' behind'' tail ih =>
    cases read
    obtain ⟨blanks, whole, blank⟩ := Text.skipBlanksSplit text
    obtain ⟨body, first, derivation⟩ := faithful head
    obtain ⟨arguments, second, more⟩ := ih tail
    refine ⟨blanks ++ ',' :: (body ++ arguments), ?_, .next blank derivation more⟩
    rw [whole, comma, first, second]
    simp
  | case5 => cases read
  | case6 => cases read

theorem mapReads {made : Except TypeFault DataType} {type : DataType} {behind rest : Text}
    (read : made.map (·, rest) = .ok (type, behind)) : made = .ok type ∧ rest = behind := by
  cases made with
  | error fault => cases read
  | ok found => cases read; exact ⟨rfl, rfl⟩

theorem typeRead (depth : Nat) : Faithful (readType depth) := by
  induction depth with
  | zero => intro text type behind read; cases read
  | succ depth ih =>
    intro text type behind read
    obtain ⟨before, whole, leading⟩ := Text.skipBlanksSplit text
    simp only [readType] at read
    split at read
    · cases read
    · rename_i spelled rest found
      obtain ⟨written, name, spelling⟩ := nameRead found
      obtain ⟨blanks, gap, trailing⟩ := Text.skipBlanksSplit rest
      split at read
      · rename_i opened bracket
        split at read
        · cases read
        · rename_i first inner head
          split at read
          · cases read
          · rename_i types after tail
            obtain ⟨made, rfl⟩ := mapReads read
            obtain ⟨body, front, derivation⟩ := ih head
            obtain ⟨arguments, rear, more⟩ := moreRead ih tail
            refine ⟨before ++ written ++ blanks ++ '<' :: (body ++ arguments), ?_,
              .applied leading spelling trailing derivation more (ofPartsDenotes (by simp) made)⟩
            rw [whole, name, gap, bracket, front, rear]
            simp
      · obtain ⟨made, rfl⟩ := mapReads read
        refine ⟨before ++ written ++ blanks, ?_,
          .plain leading spelling trailing (ofPartsDenotes (by simp) made)⟩
        rw [whole, name, List.append_assoc, List.append_assoc, ← gap]

theorem followsMore {arguments rest} (more : DerivesMore arguments rest) (behind : Text) :
    Follows (arguments ++ behind) := by
  cases more with
  | close leading =>
    rw [List.append_assoc]
    refine ⟨avoidsBlanks leading (by simp; decide), ?_⟩
    rw [Text.skipBlanksAppend leading]
    simp [Text.skipBlanksCons '>' (by decide)]
  | next leading head tail =>
    rw [List.append_assoc]
    refine ⟨avoidsBlanks leading (by simp; decide), ?_⟩
    rw [Text.skipBlanksAppend leading]
    simp [Text.skipBlanksCons ',' (by decide)]

theorem blanksSkipped {blanks : Text} (all : Blanks blanks) : Text.skipBlanks blanks = [] := by
  have skipped := Text.skipBlanksAppend all []
  rwa [List.append_nil] at skipped

theorem followsBlanks {blanks : Text} (all : Blanks blanks) : Follows blanks := by
  refine ⟨by simpa using avoidsBlanks all (Text.avoidsNil _), ?_⟩
  simp [blanksSkipped all]

theorem segmentStart {written spelled} (segment : Segment written spelled) :
    ∃ c rest, written = c :: rest ∧ Text.isBlank c = false := by
  cases segment with
  | quoted content => exact ⟨'"', _, rfl, by decide⟩
  | word filled plain =>
    obtain ⟨c, rest, rfl⟩ := List.exists_cons_of_ne_nil filled
    refine ⟨c, rest, rfl, ?_⟩
    by_contra blank
    have word := plain c (by simp)
    simp [blankNotWord (Bool.of_not_eq_false blank)] at word

theorem spellingStart {written spelled} (name : Spelling written spelled) (behind : Text) :
    Text.skipBlanks (written ++ behind) = written ++ behind := by
  cases name with
  | last segment =>
    obtain ⟨c, rest, rfl, solid⟩ := segmentStart segment
    exact Text.skipBlanksCons c solid _
  | dotted segment more =>
    obtain ⟨c, rest, rfl, solid⟩ := segmentStart segment
    exact Text.skipBlanksCons c solid _

mutual

theorem readTypeWritten {written type} (derivation : Derives written type) (depth : Nat)
    (deep : written.length < depth) {behind : Text} (follows : Follows behind) :
    ∃ rest, readType depth (written ++ behind) = .ok (type, rest) ∧
      Text.skipBlanks rest = Text.skipBlanks behind := by
  obtain ⟨depth, rfl⟩ := Nat.exists_eq_succ_of_ne_zero (Nat.ne_zero_of_lt deep)
  cases derivation with
  | plain leading name trailing meaning =>
    refine ⟨Text.skipBlanks behind, ?_, Text.skipBlanksIdem behind⟩
    have read := readNameWritten name (avoidsBlanks trailing follows.1)
    simp only [readType, List.append_assoc, Text.skipBlanksAppend leading, spellingStart name, read,
      Text.skipBlanksAppend trailing, ofPartsDenoted meaning]
    split
    · rename_i opened bracket
      exact absurd (congrArg List.head? bracket) follows.2
    · rfl
  | @applied before written spelled blanks body first arguments rest type leading name trailing head
      tail meaning =>
    simp only [List.length_append, List.length_cons] at deep
    obtain ⟨after, readHead, same⟩ := readTypeWritten head depth (by omega) (followsMore tail behind)
    have readTail := readMoreWritten tail depth (by omega) same
    have bracket : Text.Avoids extendsName
        (blanks ++ '<' :: (body ++ (arguments ++ behind))) :=
      avoidsBlanks trailing (by simp; decide)
    refine ⟨behind, ?_, rfl⟩
    simp only [readType, List.append_assoc, List.cons_append, Text.skipBlanksAppend leading,
      spellingStart name, readNameWritten name bracket, Text.skipBlanksAppend trailing,
      Text.skipBlanksCons '<' (by decide), readHead, readTail, ofPartsDenoted meaning]
    rfl

theorem readMoreWritten {written types} (more : DerivesMore written types) (depth : Nat)
    (deep : written.length ≤ depth) {behind text : Text}
    (same : Text.skipBlanks text = Text.skipBlanks (written ++ behind)) :
    readMore (readType depth) text = .ok (types, behind) := by
  cases more with
  | close leading =>
    rw [List.append_assoc, Text.skipBlanksAppend leading, List.singleton_append,
      Text.skipBlanksCons '>' (by decide)] at same
    rw [readMore]
    simp [same]
  | @next before body type arguments rest leading head tail =>
    rw [List.append_assoc, Text.skipBlanksAppend leading, List.cons_append,
      Text.skipBlanksCons ',' (by decide), List.append_assoc] at same
    simp only [List.length_append, List.length_cons] at deep
    obtain ⟨after, readHead, sameAfter⟩ := readTypeWritten head depth (by omega) (followsMore tail behind)
    have readTail := readMoreWritten tail depth (by omega) sameAfter
    have shorter := faithfulShorter (typeRead depth) readHead
    obtain ⟨blanks, whole, -⟩ := Text.skipBlanksSplit text
    have inside : after.length < text.length := by
      rw [whole, same, List.length_append, List.length_cons]
      omega
    rw [readMore]
    simp [same, readHead, inside, readTail]

end

theorem ofTextExact {text : Text} {type : DataType} :
    ofText text = .ok type ↔ DerivesText text type := by
  unfold ofText
  constructor
  · intro read
    split at read
    · cases read
    · rename_i found behind whole
      split at read <;> cases read
      rename_i blank
      obtain ⟨written, front, derivation⟩ := typeRead _ whole
      obtain ⟨blanks, rear, all⟩ := Text.skipBlanksSplit behind
      have rest : Text.skipBlanks behind = [] := by simpa using blank
      exact ⟨written, behind, front, derivation, by rwa [rear, rest, List.append_nil]⟩
  · rintro ⟨written, blanks, rfl, derivation, all⟩
    obtain ⟨rest, read, same⟩ := readTypeWritten derivation ((written ++ blanks).length + 1)
      (by rw [List.length_append]; omega) (followsBlanks all)
    simp only [read, same, blanksSkipped all]
    rfl

theorem parseOk {input : String} {type : DataType} :
    parse input = .ok type ↔ ofText input.toList = .ok type := by
  unfold parse
  split <;> simp_all

theorem parseExactlyGrammar :
    (∀ (input : String) (type : DataType),
      parse input = .ok type ↔ DerivesText input.toList type) ∧
    ∀ input : String, (∀ type, ¬ DerivesText input.toList type) →
      ∃ fault, parse input = .error ⟨input, fault⟩ := by
  have exact : ∀ (input : String) (type : DataType),
      parse input = .ok type ↔ DerivesText input.toList type :=
    fun input type => parseOk.trans ofTextExact
  refine ⟨exact, fun input underivable => ?_⟩
  cases read : ofText input.toList with
  | ok type => exact absurd (ofTextExact.mp read) (underivable type)
  | error fault => exact ⟨fault, by simp [parse, read]⟩

theorem trailingCommaUnderivable :
    (∀ type, ¬ DerivesText "list<int,>".toList type) ∧
    ∃ fault, parse "list<int,>" = .error ⟨"list<int,>", fault⟩ := by
  have refused : ∀ type, ¬ DerivesText "list<int,>".toList type := by
    intro type derives
    have read := (parseExactlyGrammar.1 _ _).mpr derives
    have : parse "list<int,>" = .error ⟨"list<int,>", .nameExpected⟩ := by cbv
    simp [this] at read
  exact ⟨refused, parseExactlyGrammar.2 _ refused⟩

end CqlSchema.DataType

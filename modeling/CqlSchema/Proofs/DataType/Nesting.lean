import CqlSchema.Proofs.DataType.Reading

/-! How deep types are nested in each other. Each type inside another takes an opening bracket of its
own, so an allowance greater than the number of brackets is never used up, and what is read is the
same for every such allowance. -/
namespace CqlSchema.DataType

/-- The types in brackets, behind the bracket that opens them. -/
def readListed (item : Text → Except TypeFault (DataType × Text)) (text : Text) :
    Except TypeFault (List DataType × Text) :=
  match item text with
  | .error fault => .error fault
  | .ok (first, behind) =>
    (readMore item behind).map fun (rest, behind) => (first :: rest, behind)

theorem readTypeListed (depth : Nat) (text : Text) :
    readType (depth + 1) text =
      match readName (Text.skipBlanks text) with
      | .error fault => .error fault
      | .ok (spelled, behind) =>
        match Text.skipBlanks behind with
        | '<' :: behind =>
          match readListed (readType depth) behind with
          | .error fault => .error fault
          | .ok (arguments, behind) => (ofParts spelled (some arguments)).map (·, behind)
        | behind => (ofParts spelled none).map (·, behind) := by
  rw [readType]
  cases readName (Text.skipBlanks text) with
  | error fault => rfl
  | ok found =>
    obtain ⟨spelled, rest⟩ := found
    simp only
    generalize Text.skipBlanks rest = opened
    split
    · rename_i behind
      simp only [readListed]
      cases readType depth behind with
      | error fault => rfl
      | ok first =>
        obtain ⟨first, behind⟩ := first
        simp only
        cases readMore (readType depth) behind <;> rfl
    · simp

theorem lengthSkipped (text : Text) : (Text.skipBlanks text).length ≤ text.length :=
  (List.dropWhile_sublist _).length_le

theorem countSkipped (text : Text) : (Text.skipBlanks text).count '<' ≤ text.count '<' :=
  (List.dropWhile_sublist _).count_le '<'

theorem bracketsBehindName {text behind opened : Text} {spelled : Text}
    (found : readName (Text.skipBlanks text) = .ok (spelled, behind))
    (bracket : Text.skipBlanks behind = '<' :: opened) :
    opened.count '<' + 1 ≤ text.count '<' := by
  have skipped := countSkipped behind
  obtain ⟨written, whole, -⟩ := nameRead found
  have first := countSkipped text
  rw [bracket, List.count_cons_self] at skipped
  rw [whole, List.count_append] at first
  omega

theorem commaBehind {ahead rest : Text} (comma : Text.skipBlanks ahead = ',' :: rest) :
    rest.length < ahead.length ∧ rest.count '<' ≤ ahead.count '<' := by
  have shorter := lengthSkipped ahead
  have fewer := countSkipped ahead
  rw [comma, List.length_cons] at shorter
  rw [comma, List.count_cons_of_ne (by decide)] at fewer
  exact ⟨shorter, fewer⟩

theorem faithfulCount {read} (faithful : Faithful read) {text behind : Text} {type : DataType}
    (found : read text = .ok (type, behind)) : behind.count '<' ≤ text.count '<' := by
  obtain ⟨written, rfl, -⟩ := faithful found
  simp

theorem refusedNotDeep {α β : Type} {result : Except TypeFault α} {fault : TypeFault}
    (shallow : result ≠ .error .nestedTooDeep) (refused : result = .error fault) :
    (.error fault : Except TypeFault β) ≠ .error .nestedTooDeep := by
  intro deep
  cases deep
  exact shallow refused

theorem mappedNotDeep {α β : Type} {f : α → β} {result : Except TypeFault α}
    (shallow : result ≠ .error .nestedTooDeep) : result.map f ≠ .error .nestedTooDeep := by
  cases refused : result with
  | error fault => exact refusedNotDeep shallow refused
  | ok value => simp [Except.map]

theorem segmentNotDeep (text : Text) : readSegment text ≠ .error .nestedTooDeep := by
  unfold readSegment
  split
  · split <;> simp
  · simp only
    split <;> simp

theorem nameNotDeep (text : Text) : readName text ≠ .error .nestedTooDeep := by
  fun_induction readName text with
  | case1 text fault refused => exact refusedNotDeep (segmentNotDeep text) refused
  | case2 text segment rest first shorter fault refused ih => exact refusedNotDeep ih refused
  | case3 => simp
  | case4 => simp

theorem partsNotDeep (spelled : Text) (arguments : Option (List DataType)) :
    ofParts spelled arguments ≠ .error .nestedTooDeep := by
  unfold ofParts
  simp only
  split
  case h_12 => split <;> simp
  all_goals simp

section Arguments

variable {item other : Text → Except TypeFault (DataType × Text)} {bound : Nat} {text : Text}
  (faithful : Faithful item)
include faithful

theorem moreNotDeep
    (shallow : ∀ text : Text, text.count '<' < bound → item text ≠ .error .nestedTooDeep)
    (few : text.count '<' < bound) : readMore item text ≠ .error .nestedTooDeep := by
  fun_induction readMore item text with
  | case1 => simp
  | case2 text rest comma fault refused =>
    exact refusedNotDeep (shallow rest ((commaBehind comma).2.trans_lt few)) refused
  | case3 text rest comma type behind found shorter fault refused ih =>
    have fewer := ((faithfulCount faithful found).trans (commaBehind comma).2).trans_lt few
    exact refusedNotDeep (ih fewer) refused
  | case4 => simp
  | case5 => simp
  | case6 => simp

theorem moreSame
    (same : ∀ text : Text, text.count '<' < bound → other text = item text)
    (few : text.count '<' < bound) : readMore other text = readMore item text := by
  fun_induction readMore item text with
  | case1 text rest closing => rw [readMore]; simp [closing]
  | case2 text rest comma fault refused =>
    have head := same rest ((commaBehind comma).2.trans_lt few)
    rw [readMore]
    simp [comma, head, refused]
  | case3 text rest comma type behind found shorter fault refused ih =>
    have head := same rest ((commaBehind comma).2.trans_lt few)
    have fewer := ((faithfulCount faithful found).trans (commaBehind comma).2).trans_lt few
    have tail := ih fewer
    rw [readMore]
    simp [comma, head, found, shorter, tail, refused]
  | case4 text rest comma type behind found shorter types after inner ih =>
    have head := same rest ((commaBehind comma).2.trans_lt few)
    have fewer := ((faithfulCount faithful found).trans (commaBehind comma).2).trans_lt few
    have tail := ih fewer
    rw [readMore]
    simp [comma, head, found, shorter, tail, inner]
  | case5 text rest comma type behind found longer =>
    have head := same rest ((commaBehind comma).2.trans_lt few)
    rw [readMore]
    simp [comma, head, found, longer]
  | case6 text closing comma =>
    rw [readMore]
    split
    · rename_i opened
      exact absurd opened (closing _)
    · rename_i opened
      exact absurd opened (comma _)
    · rfl

theorem listedNotDeep
    (shallow : ∀ text : Text, text.count '<' < bound → item text ≠ .error .nestedTooDeep)
    (few : text.count '<' < bound) : readListed item text ≠ .error .nestedTooDeep := by
  unfold readListed
  split
  · rename_i fault refused
    exact refusedNotDeep (shallow text few) refused
  · rename_i first behind found
    exact mappedNotDeep (moreNotDeep faithful shallow ((faithfulCount faithful found).trans_lt few))

theorem listedSame
    (same : ∀ text : Text, text.count '<' < bound → other text = item text)
    (few : text.count '<' < bound) : readListed other text = readListed item text := by
  unfold readListed
  rw [same text few]
  split
  · rfl
  · rename_i first behind found
    rw [moreSame faithful same ((faithfulCount faithful found).trans_lt few)]

end Arguments

theorem typeNotDeep (depth : Nat) : ∀ text : Text, text.count '<' < depth →
    readType depth text ≠ .error .nestedTooDeep := by
  induction depth with
  | zero => intro text few; omega
  | succ depth ih =>
    intro text few
    rw [readTypeListed]
    split
    · rename_i fault refused
      exact refusedNotDeep (nameNotDeep _) refused
    · rename_i spelled behind found
      split
      · rename_i opened bracket
        have fewer := bracketsBehindName found bracket
        split
        · rename_i fault refused
          exact refusedNotDeep (listedNotDeep (typeRead depth) ih (by omega)) refused
        · exact mappedNotDeep (partsNotDeep _ _)
      · exact mappedNotDeep (partsNotDeep _ _)

/-- Every allowance that covers the brackets reads the same. -/
theorem typeSame (depth : Nat) : ∀ (more : Nat) (text : Text), text.count '<' < depth →
    text.count '<' < more → readType more text = readType depth text := by
  induction depth with
  | zero => intro more text few; omega
  | succ depth ih =>
    intro more text few fewMore
    obtain ⟨more, rfl⟩ := Nat.exists_eq_add_one.mpr (Nat.zero_lt_of_lt fewMore)
    rw [readTypeListed, readTypeListed]
    split
    · rfl
    · rename_i spelled behind found
      split
      · rename_i opened bracket
        have fewer := bracketsBehindName found bracket
        -- Both allowances are one less behind the bracket, and so are the brackets to come.
        have same : ∀ text : Text, text.count '<' < opened.count '<' + 1 →
            readType more text = readType depth text :=
          fun text inner => ih more text (by omega) (by omega)
        rw [listedSame (typeRead depth) same (Nat.lt_succ_self _)]
      · rfl

theorem textNotDeep (text : Text) : ofText text ≠ .error .nestedTooDeep := by
  have shallow := typeNotDeep (text.length + 1) text (Nat.lt_succ_of_le List.count_le_length)
  unfold ofText
  split
  · rename_i fault refused
    exact refusedNotDeep shallow refused
  · split <;> simp

end CqlSchema.DataType

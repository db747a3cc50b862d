import CqlSchema.Proofs.DataType.Nesting
import CqlSchema.Proofs.DataType.Tracking.Names

/-! Walks over types and their arguments track the readers of these. A type is one level below the
place where it starts and each type inside it stands behind one more bracket, so brackets ahead bound
the levels; the induction is on the nesting that is still allowed. -/
namespace CqlSchema.DataType

def readArguments (item : Text → Except TypeFault (DataType × Text)) (text : Text) :
    Except Stop (List DataType × Text) :=
  match Text.skipBlanks text with
  | '<' :: behind => (readListed item behind).mapError .refused
  | _ => .error (.expected '<')

section Types

variable {scene : Scene} {deepest : Nat} {ahead : Text} {item : Walk DataType}
  {read : Text → Except TypeFault (DataType × Text)}

theorem tracksClosing {rounds : Nat} {rest : Text} (within : scene.level ≤ deepest)
    (closing : Text.skipBlanks ahead = '>' :: rest) :
    Tracks (Walk.more item (rounds + 1)) scene deepest ahead (.ok ([], rest)) := by
  refine tracksThen (tracksBlanks within) (tracksThen tracksPeek ?_)
  rw [closing]
  exact tracksThen (tracksMove (by decide) within) (tracksPure [])

theorem tracksNeither {rounds : Nat} (within : scene.level ≤ deepest)
    (closing : ∀ rest, Text.skipBlanks ahead ≠ '>' :: rest)
    (comma : ∀ rest, Text.skipBlanks ahead ≠ ',' :: rest) :
    Tracks (Walk.more item (rounds + 1)) scene deepest ahead
      (.error (.refused .commaOrBracketExpected)) := by
  refine tracksThen (tracksBlanks within) (tracksThen tracksPeek ?_)
  split
  · rename_i first
    exact absurd first (startsOtherwise comma)
  · rename_i first
    exact absurd first (startsOtherwise closing)
  · exact tracksThrow _

theorem tracksItemRefused {rounds : Nat} {rest : Text} {reason : Stop}
    (within : scene.level ≤ deepest) (comma : Text.skipBlanks ahead = ',' :: rest)
    (refused : Tracks item scene deepest rest (.error reason)) :
    Tracks (Walk.more item (rounds + 1)) scene deepest ahead (.error reason) := by
  refine tracksThen (tracksBlanks within) (tracksThen tracksPeek ?_)
  rw [comma]
  exact tracksThen (tracksMove (by decide) within) (tracksStop refused)

theorem tracksFurther {rounds : Nat} {rest behind : Text} {type : DataType} {result}
    (within : scene.level ≤ deepest) (comma : Text.skipBlanks ahead = ',' :: rest)
    (head : Tracks item scene deepest rest (.ok (type, behind)))
    (tail : Tracks (Walk.more item rounds) scene deepest behind result) :
    Tracks (Walk.more item (rounds + 1)) scene deepest ahead
      (result.map fun (types, behind) => (type :: types, behind)) := by
  refine tracksThen (tracksBlanks within) (tracksThen tracksPeek ?_)
  rw [comma]
  exact tracksThen (tracksMove (by decide) within) (tracksThen head (tracksMap (type :: ·) tail))

theorem tracksNoBrackets (other : ahead.head? ≠ some '<') :
    Tracks (Walk.argumentsIfAny item) scene deepest ahead (.ok (none, ahead)) := by
  refine tracksThen tracksPeek ?_
  rw [if_neg other]
  exact tracksPure none

variable (faithful : Faithful read)
  (tracksItem : ∀ ahead : Text, scene.level + 1 + ahead.count '<' ≤ deepest →
    Tracks item scene deepest ahead ((read ahead).mapError .refused))
include faithful tracksItem

theorem tracksMore {rounds : Nat} (enough : ahead.length ≤ rounds)
    (deep : scene.level + 1 + ahead.count '<' ≤ deepest) :
    Tracks (Walk.more item (rounds + 1)) scene deepest ahead
      ((readMore read ahead).mapError .refused) := by
  have within : scene.level ≤ deepest := by omega
  fun_induction readMore read ahead generalizing rounds with
  | case1 text rest closing => exact tracksClosing within closing
  | case2 text rest comma fault refused =>
    obtain ⟨-, fewer⟩ := commaBehind comma
    have head := tracksItem rest (by omega)
    rw [refused] at head
    exact tracksItemRefused within comma head
  | case3 text rest comma type behind found shorter fault refused ih =>
    obtain ⟨-, fewer⟩ := commaBehind comma
    have fewerBehind := faithfulCount faithful found
    have head := tracksItem rest (by omega)
    obtain ⟨rounds, rfl⟩ := Nat.exists_eq_add_one.mpr (Nat.zero_lt_of_lt (shorter.trans_le enough))
    have tail : Tracks (Walk.more item (rounds + 1)) scene deepest behind _ :=
      ih (by omega) (by omega)
    rw [found] at head
    rw [refused] at tail
    exact tracksFurther within comma head tail
  | case4 text rest comma type behind found shorter types behindTail inner ih =>
    obtain ⟨-, fewer⟩ := commaBehind comma
    have fewerBehind := faithfulCount faithful found
    have head := tracksItem rest (by omega)
    obtain ⟨rounds, rfl⟩ := Nat.exists_eq_add_one.mpr (Nat.zero_lt_of_lt (shorter.trans_le enough))
    have tail : Tracks (Walk.more item (rounds + 1)) scene deepest behind _ :=
      ih (by omega) (by omega)
    rw [found] at head
    rw [inner] at tail
    exact tracksFurther within comma head tail
  | case5 text rest comma type behind found longer =>
    -- A faithful reader leaves less than it is given: the loop never meets this guard.
    exact absurd ((faithfulShorter faithful found).trans (commaBehind comma).1) longer
  | case6 text closing comma => exact tracksNeither within closing comma

theorem tracksListed (deep : scene.level + 1 + ahead.count '<' ≤ deepest) :
    Tracks (do
      let first ← item
      return first :: (← Walk.more item (← Walk.rounds))) scene deepest ahead
      ((readListed read ahead).mapError .refused) := by
  have head := tracksItem ahead deep
  unfold readListed
  cases found : read ahead with
  | error fault =>
    rw [found] at head
    exact tracksStop head
  | ok first =>
    obtain ⟨type, behind⟩ := first
    rw [found] at head
    have fewer := faithfulCount faithful found
    refine tracksThen head (tracksRounds fun _ enough => ?_)
    have tail := tracksMap (type :: ·) (tracksMore faithful tracksItem enough (by omega))
    simp only
    cases inner : readMore read behind <;> rw [inner] at tail <;> exact tail

theorem tracksArguments (deep : scene.level + ahead.count '<' ≤ deepest) :
    Tracks (Walk.arguments item) scene deepest ahead (readArguments read ahead) := by
  have within : scene.level ≤ deepest := by omega
  have fewer := countSkipped ahead
  unfold readArguments
  split
  · rename_i behind opened
    rw [opened, List.count_cons_self] at fewer
    exact tracksThen (tracksPassed within (by decide) opened)
      (tracksListed faithful tracksItem (by omega))
  · rename_i other
    exact tracksStop (tracksUnexpected within (startsOtherwise other))

theorem tracksBrackets {behind : Text}
    (deep : scene.level + 1 + behind.count '<' ≤ deepest) :
    Tracks (Walk.argumentsIfAny item) scene deepest ('<' :: behind)
      (((readListed read behind).mapError .refused).map fun (arguments, behind) =>
        (some arguments, behind)) := by
  have opened := Text.skipBlanksCons '<' (by decide) behind
  refine tracksThen tracksPeek (tracksMap some ?_)
  exact tracksThen (tracksPassed (by omega) (by decide) opened)
    (tracksListed faithful tracksItem deep)

end Types

theorem tracksDenoted {scene : Scene} {deepest : Nat} {ahead : Text} (spelled : Text)
    (arguments : Option (List DataType)) :
    Tracks (Walk.denoted spelled arguments) scene deepest ahead
      (((ofParts spelled arguments).map (·, ahead)).mapError .refused) := by
  unfold Walk.denoted
  cases ofParts spelled arguments with
  | ok type => exact tracksPure type
  | error fault => exact tracksThrow _

theorem tracksType (depth : Nat) : ∀ {scene : Scene} {deepest : Nat} {ahead : Text},
    scene.level + 1 + ahead.count '<' ≤ deepest →
    Tracks (Walk.type depth) scene deepest ahead ((readType depth ahead).mapError .refused) := by
  induction depth with
  | zero => exact fun _ => tracksThrow _
  | succ depth ih =>
    intro scene deepest ahead deep
    have within : (⟨scene.text, scene.level + 1⟩ : Scene).level ≤ deepest := by simp only; omega
    have head : Tracks Walk.name ⟨scene.text, scene.level + 1⟩ deepest ahead _ := tracksName within
    refine tracksDeeper (by omega) ?_
    rw [readTypeListed]
    cases found : readName (Text.skipBlanks ahead) with
    | error fault =>
      rw [found] at head
      exact tracksStop head
    | ok named =>
      obtain ⟨spelled, behind⟩ := named
      rw [found] at head
      refine tracksThen head (tracksThen (tracksBlanks within) ?_)
      simp only
      split
      · rename_i opened bracket
        rw [bracket]
        -- The bracket is one of those ahead, which pays for the level of the types behind it.
        have fewer := bracketsBehindName found bracket
        have arguments : Tracks (Walk.argumentsIfAny (Walk.type depth))
            ⟨scene.text, scene.level + 1⟩ deepest ('<' :: opened) _ :=
          tracksBrackets (typeRead depth) (fun _ deep => ih deep) (by simp only; omega)
        cases listed : readListed (readType depth) opened with
        | error fault =>
          rw [listed] at arguments
          exact tracksStop arguments
        | ok found =>
          rw [listed] at arguments
          exact tracksThen arguments (tracksDenoted _ _)
      · rename_i other
        exact tracksThen (tracksNoBrackets (startsOtherwise other)) (tracksDenoted _ _)

theorem tracksWhole (text : Text) :
    Tracks (Walk.whole text) ⟨text, 0⟩ (text.count '<' + 1) text
      (((ofText text).map (·, [])).mapError .refused) := by
  have head : Tracks (Walk.type (text.length + 1)) ⟨text, 0⟩ (text.count '<' + 1) text _ :=
    tracksType _ (by simp only; omega)
  unfold ofText
  cases found : readType (text.length + 1) text with
  | error fault =>
    rw [found] at head
    exact tracksStop head
  | ok first =>
    obtain ⟨type, behind⟩ := first
    rw [found] at head
    refine tracksThen head (tracksThen (tracksBlanks (by simp only; omega)) ?_)
    refine tracksPlace fun place stands => ?_
    have inside := standsInside stands
    simp only at inside ⊢
    by_cases blank : Text.skipBlanks behind = []
    · rw [blank] at inside ⊢
      rw [if_neg (by rw [String.utf8Len_nil] at inside; omega)]
      exact tracksPure type
    · have longer : String.utf8Len (Text.skipBlanks behind) ≠ 0 := by simpa using blank
      rw [if_pos (by omega), if_neg (by simpa using blank)]
      exact tracksThrow _

end CqlSchema.DataType

import CqlSchema.Proofs.Text.Kept
import CqlSchema.Proofs.Text.Settled

/-! A text cut at a separator. A separator counts where it starts outside quotes and outside the
brackets that are asked for. A cut passes through a text in which none starts, and what that takes
is said of the characters outside quotes: quoted ones play no part. -/
namespace CqlSchema.Text

/-- Brackets in which no separator is looked for. -/
structure Brackets where
  opening : List Char := []
  closing : List Char := []

namespace Brackets

def flat : Brackets := {}

def angled : Brackets := ⟨['<'], ['>']⟩

def round : Brackets := ⟨['('], [')']⟩

def angledOrRound : Brackets := ⟨['<', '('], ['>', ')']⟩

def all (brackets : Brackets) : List Char := brackets.opening ++ brackets.closing

def depthAfter (brackets : Brackets) (depth : Nat) (c : Char) : Nat :=
  if c ∈ brackets.opening then depth + 1
  else if c ∈ brackets.closing then depth - 1
  else depth

theorem depthKept {brackets : Brackets} {c : Char} (other : c ∉ brackets.all) (depth : Nat) :
    brackets.depthAfter depth c = depth := by
  simp only [all, List.mem_append, not_or] at other
  simp [depthAfter, other]

end Brackets

/-- The pair is one of the brackets, all of which are angle or round ones. -/
structure Brackets.Around (brackets : Brackets) (opening close : Char) : Prop where
  opens : opening ∈ brackets.opening
  closes : close ∈ brackets.closing
  other : close ∉ brackets.opening
  usual : brackets.all ⊆ ['<', '>', '(', ')']

theorem Brackets.Around.flat {brackets : Brackets} {opening close : Char} {p : Char → Bool}
    (around : brackets.Around opening close)
    (apart : ['<', '>', '(', ')'].all (fun c => !p c) = true) :
    brackets.all.all (fun c => !p c) = true :=
  List.all_eq_true.mpr fun c inside => List.all_eq_true.mp apart c (around.usual inside)

namespace Brackets

theorem angledAngles : angled.Around '<' '>' :=
  ⟨by simp [angled], by simp [angled], by simp [angled], by simp [angled, all]⟩

theorem bothAngles : angledOrRound.Around '<' '>' :=
  ⟨by simp [angledOrRound], by simp [angledOrRound], by simp [angledOrRound],
    by simp [angledOrRound, all]⟩

theorem bothRounds : angledOrRound.Around '(' ')' :=
  ⟨by simp [angledOrRound], by simp [angledOrRound], by simp [angledOrRound],
    by simp [angledOrRound, all]⟩

theorem roundRounds : round.Around '(' ')' :=
  ⟨by simp [round], by simp [round], by simp [round], by simp [round, all]⟩

end Brackets

def shifted (front : Text) (found : Text × Text) : Text × Text := (front ++ found.1, found.2)

theorem shiftedNil (found : Option (Text × Text)) : found.map (shifted []) = found := by
  cases found <;> rfl

theorem shiftedAppend (first second : Text) (found : Option (Text × Text)) :
    (found.map (shifted second)).map (shifted first) = found.map (shifted (first ++ second)) := by
  cases found <;> simp [shifted]

/-- What stands before the first separator and what stands behind it, for a text that starts inside
the quotes `quoting` and `depth` brackets. -/
def cut? (brackets : Brackets) (separator : Text) (quoting : Option Char) (depth : Nat) :
    Text → Option (Text × Text)
  | [] => none
  | c :: rest =>
    if quoting = none ∧ depth = 0 ∧ separator.isPrefixOf (c :: rest) = true then
      some ([], rest.drop (separator.length - 1))
    else
      let next := quotingStep quoting c
      let below :=
        if quoting = none ∧ next = none then brackets.depthAfter depth c else depth
      (cut? brackets separator next below rest).map (shifted [c])

theorem cutShorter {brackets : Brackets} {separator : Text} {quoting : Option Char} {depth : Nat}
    {text before behind : Text}
    (found : cut? brackets separator quoting depth text = some (before, behind)) :
    behind.length < text.length := by
  induction text generalizing quoting depth before with
  | nil => cases found
  | cons c rest ih =>
    rw [cut?] at found
    split at found
    · cases found
      simp only [List.length_drop, List.length_cons]
      omega
    · obtain ⟨⟨front, rear⟩, inner, same⟩ := Option.map_eq_some_iff.mp found
      cases same
      exact Nat.lt_succ_of_lt (ih inner)

def pieces (brackets : Brackets) (separator text : Text) : List Text :=
  match found : cut? brackets separator none 0 text with
  | none => [text]
  | some (before, behind) =>
    have := cutShorter found
    before :: pieces brackets separator behind
termination_by text.length

/-- A cut goes on behind the text as if it started there. -/
def Passes (brackets : Brackets) (separator : Text) (depth : Nat) (ends : Text → Prop)
    (text : Text) : Prop :=
  ∀ rest, ends rest → cut? brackets separator none depth (text ++ rest) =
    (cut? brackets separator none depth rest).map (shifted text)

section
variable {brackets : Brackets} {separator : Text} {depth : Nat} {ends mid : Text → Prop}
  {p : Char → Bool} {first second text : Text}

theorem passesNil : Passes brackets separator depth ends [] := by
  intro rest _
  rw [List.nil_append, shiftedNil]

theorem passesMono (passes : Passes brackets separator depth mid text)
    (narrower : ∀ r, ends r → mid r) : Passes brackets separator depth ends text :=
  fun rest fits => passes rest (narrower rest fits)

theorem passesAppend (front : Passes brackets separator depth mid first)
    (rear : Passes brackets separator depth ends second)
    (fits : ∀ r, ends r → mid (second ++ r)) :
    Passes brackets separator depth ends (first ++ second) := by
  intro rest allowed
  rw [List.append_assoc, front _ (fits rest allowed), rear rest allowed, shiftedAppend]

theorem cutThrough {quoting : Option Char} {rest : Text}
    (closed : quotingAfter quoting text = none)
    (unbracketed : ∀ c ∈ outside quoting text, c ∉ brackets.all)
    (absent : depth = 0 → ∀ before c behind, text = before ++ c :: behind →
      quotingAfter quoting before = none → ¬separator <+: c :: (behind ++ rest)) :
    cut? brackets separator quoting depth (text ++ rest) =
      (cut? brackets separator none depth rest).map (shifted text) := by
  -- By induction on the text, from whichever quotes it starts inside.
  induction text generalizing quoting with
  | nil =>
    have start : quoting = none := closed
    rw [start, List.nil_append, shiftedNil]
  | cons c text ih =>
    have missing : ¬(quoting = none ∧ depth = 0 ∧
        separator.isPrefixOf (c :: (text ++ rest)) = true) := by
      intro here
      obtain ⟨start, outermost, found⟩ := here
      exact absent outermost [] c text rfl start (List.isPrefixOf_iff_prefix.mp found)
    have level : (if quoting = none ∧ quotingStep quoting c = none then
        brackets.depthAfter depth c else depth) = depth := by
      split
      · rename_i plain
        obtain ⟨rfl, step⟩ := plain
        exact Brackets.depthKept (unbracketed c (by simp [outside, step])) depth
      · rfl
    have tail : cut? brackets separator (quotingStep quoting c) depth (text ++ rest) =
        (cut? brackets separator none depth rest).map (shifted text) := by
      refine ih closed (fun d inside => unbracketed d ?_) ?_
      · simp only [outside]
        split
        · exact List.mem_cons_of_mem _ inside
        · exact inside
      · intro outermost before d behind split start
        exact absent outermost (c :: before) d behind (by rw [split, List.cons_append]) start
    rw [List.cons_append, cut?, if_neg missing]
    simp only [level, tail, shiftedAppend, List.singleton_append]

theorem passesFirst {s : Char} {more : Text} (kept : Kept p text)
    (flat : brackets.all.all (fun c => !p c) = true) (unquoted : isQuote s = false)
    (other : depth = 0 → p s = false) : Passes brackets (s :: more) depth ends text := by
  intro rest _
  refine cutThrough kept.closed (fun c inside member => ?_) ?_
  · have excluded := List.all_eq_true.mp flat c member
    simp [kept.within c inside] at excluded
  · intro outermost before c behind split start found
    obtain ⟨rfl, -⟩ := List.cons_prefix_cons.mp found
    have held := kept.within s (split ▸ outsideAt start unquoted)
    exact classApart held (other outermost) rfl

/-- The first character may end the text where the second one does not follow. -/
theorem passesSecond {s next : Char} {more : Text} (kept : Kept p text)
    (flat : brackets.all.all (fun c => !p c) = true) (unquoted : isQuote s = false)
    (plain : isQuote next = false) (other : p next = false) :
    Passes brackets (s :: next :: more) depth (Avoids (· == next)) text := by
  intro rest stop
  refine cutThrough kept.closed (fun c inside member => ?_) ?_
  · have excluded := List.all_eq_true.mp flat c member
    simp [kept.within c inside] at excluded
  · intro _ before c behind split start found
    obtain ⟨rfl, tail⟩ := List.cons_prefix_cons.mp found
    cases behind with
    | nil =>
      obtain ⟨behind, same⟩ := tail
      rw [List.nil_append] at same
      simp [← same] at stop
    | cons d behind =>
      obtain ⟨rfl, -⟩ := List.cons_prefix_cons.mp tail
      have step : quotingAfter none (before ++ [s]) = none := by
        rw [quotingAppend, start]
        simp [quotingAfter, quotingStep, unquoted]
      have inside : next ∈ outside none text := by
        rw [split, List.append_cons]
        exact outsideAt step plain
      exact classApart (kept.within next inside) other rfl

/-- Whether each place of the text shows within the text that no separator starts there. -/
def startsNowhere (separator : Text) : Text → Bool
  | [] => true
  | c :: rest => differ separator (c :: rest) && startsNowhere separator rest

theorem startsNowhereAt {before behind : Text} {c : Char}
    (nowhere : startsNowhere separator (before ++ c :: behind) = true) :
    differ separator (c :: behind) = true := by
  induction before with
  | nil =>
    rw [List.nil_append, startsNowhere, Bool.and_eq_true] at nowhere
    exact nowhere.1
  | cons d before ih =>
    rw [List.cons_append, startsNowhere, Bool.and_eq_true] at nowhere
    exact ih nowhere.2

theorem passesWords (kept : Kept p text) (flat : brackets.all.all (fun c => !p c) = true)
    (nowhere : startsNowhere separator text = true) :
    Passes brackets separator depth ends text := by
  intro rest _
  refine cutThrough kept.closed (fun c inside member => ?_) ?_
  · have excluded := List.all_eq_true.mp flat c member
    simp [kept.within c inside] at excluded
  · intro _ before c behind split _ found
    obtain ⟨tail, same⟩ := found
    refine differApart (startsNowhereAt (split ▸ nowhere)) tail rest ?_
    rw [same, List.cons_append]

theorem passesBracketed {opening close : Char} (around : brackets.Around opening close)
    (unquoted : isQuote opening = false) (plain : isQuote close = false)
    (apart : depth = 0 → ∀ rest, ¬separator <+: opening :: rest)
    (inner : Passes brackets separator (depth + 1) (fun r => r.head? = some close) text) :
    Passes brackets separator depth ends (opening :: (text ++ [close])) := by
  intro rest _
  have first : ¬(none = (none : Option Char) ∧ depth = 0 ∧
      separator.isPrefixOf (opening :: (text ++ close :: rest)) = true) := by
    intro here
    obtain ⟨-, outermost, found⟩ := here
    exact apart outermost _ (List.isPrefixOf_iff_prefix.mp found)
  have last : cut? brackets separator none (depth + 1) (close :: rest) =
      (cut? brackets separator none depth rest).map (shifted [close]) := by
    simp [cut?, quotingStep, plain, Brackets.depthAfter, around.other, around.closes]
  have step : cut? brackets separator none depth (opening :: (text ++ close :: rest)) =
      (cut? brackets separator none (depth + 1) (text ++ close :: rest)).map
        (shifted [opening]) := by
    rw [cut?, if_neg first]
    simp [quotingStep, unquoted, Brackets.depthAfter, around.opens]
  have whole : opening :: (text ++ [close]) ++ rest = opening :: (text ++ close :: rest) := by simp
  rw [whole, step, inner _ rfl, last, shiftedAppend, shiftedAppend]
  simp

/-- A cut passes through the text, and the text may itself follow where its end may. -/
structure Crossed (brackets : Brackets) (separator : Text) (depth : Nat) (ends : Text → Prop)
    (text : Text) : Prop where
  passes : Passes brackets separator depth ends text
  opens : ∀ r, ends r → ends (text ++ r)

abbrev Free (brackets : Brackets) (separator : Text) (depth : Nat) (text : Text) : Prop :=
  Crossed brackets separator depth (fun _ => True) text

theorem freely (passes : Passes brackets separator depth (fun _ => True) text) :
    Free brackets separator depth text :=
  ⟨passes, fun _ _ => trivial⟩

theorem freePasses (free : Free brackets separator depth text) :
    Passes brackets separator depth ends text :=
  passesMono free.passes fun _ _ => trivial

theorem crossedNil : Crossed brackets separator depth ends [] := ⟨passesNil, fun _ fits => fits⟩

theorem crossedAppend (front : Crossed brackets separator depth ends first)
    (rear : Crossed brackets separator depth ends second) :
    Crossed brackets separator depth ends (first ++ second) where
  passes := passesAppend front.passes rear.passes rear.opens
  opens r fits := by
    rw [List.append_assoc]
    exact front.opens _ (rear.opens r fits)

theorem crossedFlatMap {α : Type} {parts : List α} {written : α → Text}
    (each : ∀ part ∈ parts, Crossed brackets separator depth ends (written part)) :
    Crossed brackets separator depth ends (parts.flatMap written) := by
  induction parts with
  | nil => exact crossedNil
  | cons part rest ih =>
    obtain ⟨head, tail⟩ := List.forall_mem_cons.mp each
    exact crossedAppend head (ih tail)

theorem crossedJoined {between : Text} {parts : List Text}
    (comma : Crossed brackets separator depth ends between)
    (each : ∀ part ∈ parts, Crossed brackets separator depth ends part) :
    Crossed brackets separator depth ends (joined between parts) := by
  cases parts with
  | nil => exact crossedNil
  | cons part rest =>
    obtain ⟨head, tail⟩ := List.forall_mem_cons.mp each
    exact crossedAppend head (crossedFlatMap fun other inside =>
      crossedAppend comma (tail other inside))

theorem cutFound {rest : Text} (filled : separator ≠ []) :
    cut? brackets separator none 0 (separator ++ rest) = some ([], rest) := by
  obtain ⟨c, more, rfl⟩ := List.exists_cons_of_ne_nil filled
  rw [List.cons_append, cut?, if_pos]
  · simp
  · exact ⟨rfl, rfl, List.isPrefixOf_iff_prefix.mpr ⟨rest, rfl⟩⟩

theorem cutBehind {rest : Text} (filled : separator ≠ [])
    (passes : Passes brackets separator 0 ends text) (fits : ends (separator ++ rest)) :
    cut? brackets separator none 0 (text ++ (separator ++ rest)) = some (text, rest) := by
  rw [passes _ fits, cutFound filled]
  simp [shifted]

theorem cutNone (passes : Passes brackets separator 0 ends text) (fits : ends []) :
    cut? brackets separator none 0 text = none := by
  have whole := passes [] fits
  rwa [List.append_nil] at whole

theorem piecesUncut (uncut : cut? brackets separator none 0 text = none) :
    pieces brackets separator text = [text] := by
  rw [pieces]
  split
  · rfl
  · rename_i found
    rw [uncut] at found
    cases found

theorem piecesCut {before behind : Text}
    (cut : cut? brackets separator none 0 text = some (before, behind)) :
    pieces brackets separator text = before :: pieces brackets separator behind := by
  rw [pieces]
  split
  · rename_i missing
    rw [cut] at missing
    cases missing
  · rename_i found
    rw [cut] at found
    cases found
    rfl

/-- The pieces of parts that were joined by the separator, which are none if there was no part. -/
def recut (brackets : Brackets) (separator : Text) (parts : List Text) : List Text :=
  if parts.isEmpty then [] else pieces brackets separator (joined separator parts)

theorem recutCons {parts : List Text} (filled : separator ≠ [])
    (passes : Passes brackets separator 0 ends first) (last : ends [])
    (between : ∀ r, ends (separator ++ r)) :
    recut brackets separator (first :: parts) = first :: recut brackets separator parts := by
  cases parts with
  | nil =>
    have uncut : cut? brackets separator none 0 first = none := cutNone passes last
    simp [recut, piecesUncut uncut]
  | cons second more =>
    have cut := cutBehind filled passes (between (joined separator (second :: more)))
    simp only [recut, List.isEmpty_cons, Bool.false_eq_true, if_false]
    rw [joinedConsCons, List.append_assoc, piecesCut cut]

/-- Parts that a cut passes through are cut where they were joined. -/
theorem recutSame {parts : List Text} (filled : separator ≠ [])
    (each : ∀ part ∈ parts, Passes brackets separator 0 ends part) (last : ends [])
    (between : ∀ r, ends (separator ++ r)) : recut brackets separator parts = parts := by
  induction parts with
  | nil => rfl
  | cons part rest ih =>
    obtain ⟨head, tail⟩ := List.forall_mem_cons.mp each
    rw [recutCons filled head last between, ih tail]

theorem piecesFree {parts : List Text} (given : parts ≠ []) (filled : separator ≠ [])
    (each : ∀ part ∈ parts, Free brackets separator 0 part) :
    pieces brackets separator (joined separator parts) = parts := by
  have same : recut brackets separator parts = parts :=
    recutSame filled (fun part inside => (each part inside).passes) trivial fun _ => trivial
  rwa [recut, if_neg (by simpa using given)] at same

end

end CqlSchema.Text

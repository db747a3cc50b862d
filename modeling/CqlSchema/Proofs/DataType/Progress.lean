import CqlSchema.Proofs.DataType.Tracking.Types

/-! Reading a type always moves forward and always ends. From any place of a text, a reader that
succeeds has passed at least one character; it stays inside the text whether it succeeds or not; and
it reads no more types inside each other than there are opening brackets ahead, and one. From inside
a character or from behind the end it goes astray at once. -/
namespace CqlSchema.DataType

theorem nameShorter {text spelled behind : Text}
    (found : readName (Text.skipBlanks text) = .ok (spelled, behind)) :
    behind.length < text.length := by
  obtain ⟨written, whole, spelling⟩ := nameRead found
  have filled := List.length_pos_iff.mpr (spellingFilled spelling)
  have skipped := lengthSkipped text
  rw [whole, List.length_append] at skipped
  omega

theorem listedShorter {item} (faithful : Faithful item) {text behind : Text}
    {types : List DataType} (found : readListed item text = .ok (types, behind)) :
    behind.length < text.length := by
  unfold readListed at found
  split at found
  · cases found
  · rename_i first rest head
    have shorter := faithfulShorter faithful head
    cases tail : readMore item rest with
    | error fault =>
      rw [tail] at found
      cases found
    | ok more =>
      rw [tail] at found
      cases found
      obtain ⟨written, whole, -⟩ := moreRead faithful tail
      rw [whole, List.length_append] at shorter
      omega

theorem refusedOk {α : Type} {result : Except TypeFault α} {value : α}
    (found : result.mapError Stop.refused = .ok value) : result = .ok value := by
  cases result with
  | error fault => cases found
  | ok other => cases found; rfl

theorem refusedError {α : Type} {result : Except TypeFault α} {reason : Stop}
    (found : result.mapError Stop.refused = .error reason) :
    ∃ fault, result = .error fault ∧ reason = .refused fault := by
  cases result with
  | error fault => cases found; exact ⟨fault, rfl, rfl⟩
  | ok other => cases found

theorem refusedEnds {fault : TypeFault} (shallow : fault ≠ .nestedTooDeep) :
    Stop.refused fault ≠ .astray ∧ Stop.refused fault ≠ .endless ∧
      Stop.refused fault ≠ .refused .nestedTooDeep := by
  simp [shallow]

theorem expectedEnds (c : Char) :
    Stop.expected c ≠ .astray ∧ Stop.expected c ≠ .endless ∧
      Stop.expected c ≠ .refused .nestedTooDeep := by
  simp

theorem argumentsShorter {item} (faithful : Faithful item) {text behind : Text}
    {types : List DataType} (found : readArguments item text = .ok (types, behind)) :
    behind.length < text.length := by
  have skipped := lengthSkipped text
  unfold readArguments at found
  split at found
  · rename_i opened bracket
    have shorter := listedShorter faithful (refusedOk found)
    rw [bracket, List.length_cons] at skipped
    omega
  · cases found

/-- What a walk from a place does, beside what a reader gives for the text from there. -/
structure Advances {α : Type} (walk : Walk α) (scene : Scene) (place deepest : Nat)
    (result : Except Stop (α × Text)) : Prop where
  agrees : walk.outcome scene place = result.map (·.1)
  forward : ∀ value, walk.outcome scene place = .ok value → place < (walk.trail scene place).place
  reaches : ∀ value behind, result = .ok (value, behind) →
    StandsAt scene.text (walk.trail scene place).place behind
  inside : (walk.trail scene place).place ≤ String.utf8Len scene.text
  visited : ∀ visit ∈ (walk.trail scene place).visits,
    visit.place ≤ String.utf8Len scene.text ∧ visit.level ≤ deepest
  ends : ∀ reason, walk.outcome scene place = .error reason →
    reason ≠ .astray ∧ reason ≠ .endless ∧ reason ≠ .refused .nestedTooDeep

section Advancing

variable {α : Type} {walk : Walk α} {scene : Scene} {place deepest : Nat} {ahead : Text}
  (stands : StandsAt scene.text place ahead)
include stands

theorem standsForward {stop : Nat} {behind : Text} (last : StandsAt scene.text stop behind)
    (shorter : behind.length < ahead.length) : place < stop := by
  obtain ⟨before, whole, rfl⟩ := stands
  obtain ⟨passed, same, rfl⟩ := last
  -- Of two parts in front of places of one text, one begins with the other.
  obtain ⟨more, rfl, rfl⟩ | ⟨more, rfl, rfl⟩ := List.append_eq_append_iff.mp (whole.symm.trans same)
  · have filled : String.utf8Len more ≠ 0 := by
      rw [Ne, String.utf8Len_eq_zero]
      rintro rfl
      simp at shorter
    rw [String.utf8Len_append]
    omega
  · simp at shorter

theorem advancesTracked {result} (tracks : Tracks walk scene deepest ahead result)
    (shorter : ∀ value behind, result = .ok (value, behind) → behind.length < ahead.length)
    (ordinary : ∀ reason, result = .error reason →
      reason ≠ .astray ∧ reason ≠ .endless ∧ reason ≠ .refused .nestedTooDeep) :
    Advances walk scene place deepest result := by
  obtain ⟨stop, run, ⟨⟨last, stopped⟩, visits, added, inside⟩, reached⟩ := tracks ⟨place, []⟩ stands
  have outcome : walk.outcome scene place = result.map (·.1) := congrArg Prod.fst run
  have trail : walk.trail scene place = stop := congrArg Prod.snd run
  refine ⟨outcome, ?_, ?_, ?_, ?_, ?_⟩
  · intro value succeeded
    rw [outcome] at succeeded
    cases result with
    | error reason => cases succeeded
    | ok found =>
      rw [trail]
      exact standsForward stands (reached found.1 found.2 rfl) (shorter found.1 found.2 rfl)
  · rw [trail]
    exact reached
  · rw [trail]
    have := standsInside stopped
    omega
  · intro visit found
    rw [trail, added, List.append_nil] at found
    obtain ⟨⟨rest, there⟩, level⟩ := inside visit found
    have := standsInside there
    exact ⟨by omega, level⟩
  · intro reason failed
    rw [outcome] at failed
    cases result with
    | error other =>
      cases failed
      exact ordinary reason rfl
    | ok found => cases failed

theorem advancesReading {result : Except TypeFault (α × Text)}
    (tracks : Tracks walk scene deepest ahead (result.mapError .refused))
    (shorter : ∀ value behind, result = .ok (value, behind) → behind.length < ahead.length)
    (shallow : result ≠ .error .nestedTooDeep) :
    Advances walk scene place deepest (result.mapError .refused) := by
  refine advancesTracked stands tracks (fun value behind found => ?_) (fun reason failed => ?_)
  · exact shorter value behind (refusedOk found)
  · obtain ⟨fault, refused, rfl⟩ := refusedError failed
    refine refusedEnds fun deep => ?_
    subst deep
    exact shallow refused

end Advancing

section Readers

variable {scene : Scene} {place : Nat} {ahead : Text} (stands : StandsAt scene.text place ahead)
include stands

theorem nameAdvances :
    Advances Walk.name scene place scene.level
      ((readName (Text.skipBlanks ahead)).mapError .refused) :=
  advancesReading stands (tracksName le_rfl) (fun _ _ => nameShorter) (nameNotDeep _)

theorem quotedAdvances (quote : ahead.head? = some '"') :
    Advances Walk.quoted scene place scene.level ((readSegment ahead).mapError .refused) := by
  obtain ⟨rest, rfl⟩ := List.head?_eq_some_iff.mp quote
  have tracks : Tracks Walk.quoted scene scene.level ('"' :: rest) _ := tracksQuoted le_rfl
  rw [← quotedResult] at tracks
  exact advancesReading stands tracks (fun _ _ => readSegmentShorter) (segmentNotDeep _)

theorem typeAdvances {depth : Nat} (deep : ahead.count '<' < depth) :
    Advances (Walk.type depth) scene place (scene.level + 1 + ahead.count '<')
      ((readType depth ahead).mapError .refused) :=
  advancesReading stands (tracksType depth le_rfl) (fun _ _ => faithfulShorter (typeRead depth))
    (typeNotDeep depth ahead deep)

theorem argumentsAdvance {depth : Nat} (deep : ahead.count '<' ≤ depth) :
    Advances (Walk.arguments (Walk.type depth)) scene place (scene.level + ahead.count '<')
      (readArguments (readType depth) ahead) := by
  refine advancesTracked stands
    (tracksArguments (typeRead depth) (fun _ => tracksType depth) le_rfl)
    (fun _ _ => argumentsShorter (typeRead depth)) (fun reason failed => ?_)
  have fewer := countSkipped ahead
  unfold readArguments at failed
  split at failed
  · rename_i opened bracket
    rw [bracket, List.count_cons_self] at fewer
    obtain ⟨fault, refused, rfl⟩ := refusedError failed
    refine refusedEnds fun deep => ?_
    subst deep
    exact listedNotDeep (typeRead depth) (typeNotDeep depth) (by omega) refused
  · cases failed
    exact expectedEnds '<'

end Readers

section Straying

variable {α β : Type} {scene : Scene} {start : Trail}

/-- The walk goes astray at its first look. -/
def Strays (walk : Walk α) (scene : Scene) (start : Trail) : Prop :=
  walk.runFrom scene start = (.error .astray, start)

theorem straysThen {first : Walk α} {next : α → Walk β} (strays : Strays first scene start) :
    Strays (first >>= next) scene start := by
  unfold Strays at strays ⊢
  rw [runBind, strays]

section Walks

variable (nowhere : ∀ ahead, ¬ StandsAt scene.text start.place ahead)
include nowhere

theorem straysPeek : Strays Walk.peek scene start := by
  have unseen : Text.behind? scene.text (start.place + 0) = none :=
    Option.eq_none_iff_forall_ne_some.mpr fun ahead found => nowhere ahead (standsFound found)
  have look : Strays (Walk.aheadBy 0) scene start := by
    unfold Strays Walk.aheadBy
    rw [runRead, runGet, unseen]
    rfl
  exact straysThen look

theorem straysBlanks : Strays Walk.passBlanks scene start := by
  let rounds := scene.text.length + 1
  have passed : Strays (Walk.passWhile Text.isBlank Char.utf8Size rounds) scene start :=
    straysThen (straysPeek nowhere)
  have ignored : Strays (do let _ ← Walk.passWhile Text.isBlank Char.utf8Size rounds) scene start :=
    straysThen passed
  exact ignored

theorem straysName : Strays Walk.name scene start :=
  straysThen (straysBlanks nowhere)

theorem straysArguments (item : Walk DataType) : Strays (Walk.arguments item) scene start :=
  straysThen (straysThen (straysBlanks nowhere))

end Walks

theorem straysType {place : Nat} (nowhere : ∀ ahead, ¬ StandsAt scene.text place ahead)
    (depth : Nat) : (Walk.type (depth + 1)).runFrom scene ⟨place, []⟩ =
      (.error .astray, ⟨place, [⟨place, scene.level + 1⟩]⟩) := by
  have named : Strays Walk.name ⟨scene.text, scene.level + 1⟩ ⟨place, [⟨place, scene.level + 1⟩]⟩ :=
    straysName nowhere
  exact straysThen named

end Straying

theorem textAdvances (text : Text) :
    Advances (Walk.whole text) ⟨text, 0⟩ 0 (text.count '<' + 1)
      (((ofText text).map (·, [])).mapError .refused) := by
  refine advancesReading ⟨[], rfl, rfl⟩ (tracksWhole text) (fun type behind found => ?_)
    (mappedNotDeep (textNotDeep text))
  cases read : ofText text with
  | error fault =>
    rw [read] at found
    cases found
  | ok type =>
    rw [read] at found
    cases found
    obtain ⟨written, blanks, rfl, derivation, -⟩ := ofTextExact.mp read
    have filled := List.length_pos_iff.mpr (derivesFilled derivation)
    rw [List.length_append, List.length_nil]
    omega

theorem readersAdvanceAndEnd :
    (∀ (before ahead : Text) (level : Nat),
      let scene : Scene := ⟨before ++ ahead, level⟩
      let place := String.utf8Len before
      let brackets := ahead.count '<'
      Advances Walk.name scene place level
        ((readName (Text.skipBlanks ahead)).mapError .refused) ∧
      (ahead.head? = some '"' →
        Advances Walk.quoted scene place level ((readSegment ahead).mapError .refused)) ∧
      (∀ depth, brackets ≤ depth →
        Advances (Walk.arguments (Walk.type depth)) scene place (level + brackets)
          (readArguments (readType depth) ahead)) ∧
      ∀ depth, brackets < depth →
        Advances (Walk.type depth) scene place (level + 1 + brackets)
          ((readType depth ahead).mapError .refused) ∧
        readType depth ahead = readType ((before ++ ahead).length + 1) ahead) ∧
    (∀ (text : Text) (place level : Nat), (∀ ahead, ¬ StandsAt text place ahead) →
      Walk.name.runFrom ⟨text, level⟩ ⟨place, []⟩ = (.error .astray, ⟨place, []⟩) ∧
      ∀ depth,
        (Walk.arguments (Walk.type depth)).runFrom ⟨text, level⟩ ⟨place, []⟩ =
          (.error .astray, ⟨place, []⟩) ∧
        (Walk.type (depth + 1)).runFrom ⟨text, level⟩ ⟨place, []⟩ =
          (.error .astray, ⟨place, [⟨place, level + 1⟩]⟩)) ∧
    ∀ input : String,
      let text := input.toList
      Advances (Walk.whole text) ⟨text, 0⟩ 0 (text.count '<' + 1)
        (((ofText text).map (·, [])).mapError .refused) ∧
      String.utf8Len text = input.utf8ByteSize ∧
      text.count '<' < text.length + 1 ∧
      parse input ≠ .error ⟨input, .nestedTooDeep⟩ := by
  refine ⟨fun before ahead level => ?_, fun text place level nowhere => ?_, fun input => ?_⟩
  · have stands : StandsAt (before ++ ahead) (String.utf8Len before) ahead := ⟨before, rfl, rfl⟩
    have fits : ahead.count '<' < (before ++ ahead).length + 1 := by
      have := List.count_le_length (a := '<') (l := ahead)
      rw [List.length_append]
      omega
    exact ⟨nameAdvances stands, quotedAdvances stands, fun depth => argumentsAdvance stands,
      fun depth deep => ⟨typeAdvances stands deep, typeSame _ _ _ fits deep⟩⟩
  · exact ⟨straysName nowhere, fun depth => ⟨straysArguments nowhere _, straysType nowhere depth⟩⟩
  · refine ⟨textAdvances _, ?_, Nat.lt_succ_of_le List.count_le_length, ?_⟩
    · rw [← String.utf8ByteSize_ofList, String.ofList_toList]
    · unfold parse
      split
      · simp
      · rename_i fault refused
        intro deep
        cases deep
        exact textNotDeep _ refused

theorem unclosedMapReadToItsEnd :
    let quoted := "\"é\"".toList
    let arguments := '<' :: quoted
    let text := "map".toList ++ arguments
    quoted.head? = some '"' ∧
      Advances Walk.quoted ⟨text, 1⟩ 4 1 (.ok (['é'], [])) ∧
      arguments.count '<' ≤ 1 ∧
      Advances (Walk.arguments (Walk.type 1)) ⟨text, 1⟩ 3 2
        (readArguments (readType 1) arguments) ∧
      text.count '<' < 2 ∧
      Advances (Walk.type 2) ⟨text, 0⟩ 0 2 ((readType 2 text).mapError .refused) ∧
      readType 2 text = readType 8 text ∧
      (∀ ahead, ¬ StandsAt text 6 ahead) ∧
      Walk.name.runFrom ⟨text, 0⟩ ⟨6, []⟩ = (.error .astray, ⟨6, []⟩) ∧
      (Walk.whole text).outcome ⟨text, 0⟩ 0 = .error (.refused .commaOrBracketExpected) ∧
      (Walk.whole text).trail ⟨text, 0⟩ 0 =
        ⟨8, [⟨8, 2⟩, ⟨7, 2⟩, ⟨5, 2⟩, ⟨4, 2⟩, ⟨4, 1⟩, ⟨3, 1⟩, ⟨2, 1⟩, ⟨1, 1⟩, ⟨0, 1⟩]⟩ := by
  intro quoted arguments text
  obtain ⟨places, elsewhere, -⟩ := readersAdvanceAndEnd
  obtain ⟨-, opened, -⟩ := places ("map".toList ++ ['<']) quoted 1
  obtain ⟨-, -, bracketed, -⟩ := places "map".toList arguments 1
  obtain ⟨-, -, -, types⟩ := places [] text 0
  have quote : quoted.head? = some '"' := by decide
  have few : arguments.count '<' ≤ 1 := by decide
  have fewer : text.count '<' < 2 := by decide
  have unseen : Text.behind? text 6 = none := by decide
  have nowhere : ∀ ahead, ¬ StandsAt text 6 ahead := by
    intro ahead stands
    rw [behindStands stands] at unseen
    cases unseen
  exact ⟨quote, opened quote, few, bracketed 1 few, fewer, (types 2 fewer).1, (types 2 fewer).2,
    nowhere, (elsewhere text 6 0 nowhere).1, rfl, by decide⟩

end CqlSchema.DataType

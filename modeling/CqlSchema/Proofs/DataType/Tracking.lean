import CqlSchema.Proofs.DataType.Walk

/-! What it means that a walk tracks a reader's result: from every place where the given text stands,
the walk ends in that result, stands before the text that is left, and has been at places of the text
only, at no level below the deepest one allowed, also if it is stopped. Walks that track their
results are put together step by step. -/
namespace CqlSchema.DataType

/-- A place of the text, and what stands from there on. -/
def StandsAt (text : Text) (place : Nat) (ahead : Text) : Prop :=
  ∃ before, text = before ++ ahead ∧ place = String.utf8Len before

theorem behindStands {text ahead : Text} {place : Nat} (stands : StandsAt text place ahead) :
    Text.behind? text place = some ahead := by
  obtain ⟨before, rfl, rfl⟩ := stands
  induction before with
  | nil => cases ahead <;> rfl
  | cons c rest ih =>
    have filled := c.utf8Size_pos
    -- `behind?` compares a width only at a place that is a successor.
    obtain ⟨place, same⟩ : ∃ place, String.utf8Len (c :: rest) = place + 1 :=
      ⟨String.utf8Len (c :: rest) - 1, by rw [String.utf8Len_cons]; omega⟩
    have behind : place + 1 - c.utf8Size = String.utf8Len rest := by
      rw [← same, String.utf8Len_cons]
      omega
    have fits : c.utf8Size ≤ place + 1 := by
      rw [← same, String.utf8Len_cons]
      omega
    rw [same, List.cons_append, Text.behind?, if_pos fits, behind, ih]

theorem standsFound {text ahead : Text} {place : Nat}
    (found : Text.behind? text place = some ahead) : StandsAt text place ahead := by
  fun_induction Text.behind? text place with
  | case1 text =>
    cases found
    exact ⟨[], rfl, rfl⟩
  | case2 => cases found
  | case3 c rest place fits ih =>
    obtain ⟨before, rfl, reached⟩ := ih found
    refine ⟨c :: before, rfl, ?_⟩
    rw [String.utf8Len_cons]
    omega
  | case4 => cases found

theorem standsBehind {text passed behind : Text} {place : Nat}
    (stands : StandsAt text place (passed ++ behind)) :
    StandsAt text (place + String.utf8Len passed) behind := by
  obtain ⟨before, rfl, rfl⟩ := stands
  exact ⟨before ++ passed, by simp, by simp⟩

theorem standsMoved {text passed behind : Text} {start stop : Nat}
    (first : StandsAt text start (passed ++ behind)) (last : StandsAt text stop behind) :
    stop = start + String.utf8Len passed := by
  obtain ⟨before, whole, reached⟩ := standsBehind first
  obtain ⟨other, same, rfl⟩ := last
  rw [reached, List.append_cancel_right (whole.symm.trans same)]

theorem standsInside {text ahead : Text} {place : Nat} (stands : StandsAt text place ahead) :
    place + String.utf8Len ahead = String.utf8Len text := by
  obtain ⟨before, rfl, rfl⟩ := stands
  simp

theorem standsShorter {text ahead : Text} {place : Nat} (stands : StandsAt text place ahead) :
    ahead.length ≤ text.length := by
  obtain ⟨before, rfl, rfl⟩ := stands
  simp

/-- What a walk adds to its trail. -/
structure Extends (scene : Scene) (deepest : Nat) (start stop : Trail) : Prop where
  stands : ∃ ahead, StandsAt scene.text stop.place ahead
  fresh : ∃ visits, stop.visits = visits ++ start.visits ∧
    ∀ visit ∈ visits, (∃ ahead, StandsAt scene.text visit.place ahead) ∧ visit.level ≤ deepest

def Tracks {α : Type} (walk : Walk α) (scene : Scene) (deepest : Nat) (ahead : Text)
    (result : Except Stop (α × Text)) : Prop :=
  ∀ start : Trail, StandsAt scene.text start.place ahead →
    ∃ stop : Trail, walk.runFrom scene start = (result.map (·.1), stop) ∧
      Extends scene deepest start stop ∧
      ∀ value behind, result = .ok (value, behind) → StandsAt scene.text stop.place behind

section Steps

variable {α β : Type} {scene : Scene} {deepest : Nat} {ahead behind : Text}

theorem extendsSelf {start : Trail} (stands : StandsAt scene.text start.place ahead) :
    Extends scene deepest start start :=
  ⟨⟨ahead, stands⟩, [], rfl, by simp⟩

theorem extendsTrans {start middle stop : Trail} (first : Extends scene deepest start middle)
    (second : Extends scene deepest middle stop) : Extends scene deepest start stop := by
  obtain ⟨-, visits, added, inside⟩ := first
  obtain ⟨stands, further, addedBehind, insideBehind⟩ := second
  refine ⟨stands, further ++ visits, by rw [addedBehind, added, List.append_assoc], ?_⟩
  intro visit found
  rcases List.mem_append.mp found with late | early
  · exact insideBehind visit late
  · exact inside visit early

theorem runBind (first : Walk α) (next : α → Walk β) (start : Trail) :
    (first >>= next).runFrom scene start =
      match first.runFrom scene start with
      | (.ok value, stop) => (next value).runFrom scene stop
      | (.error reason, stop) => (.error reason, stop) := by
  cases outcome : first.runFrom scene start with
  | mk result stop =>
    simp only [Walk.runFrom, ReaderT.run_bind, ExceptT.run_bind, StateT.run_bind] at outcome ⊢
    rw [outcome]
    cases result <;> rfl

theorem runRead (next : Scene → Walk β) (start : Trail) :
    ((read : Walk Scene) >>= next).runFrom scene start = (next scene).runFrom scene start := rfl

theorem runGet (next : Trail → Walk β) (start : Trail) :
    ((get : Walk Trail) >>= next).runFrom scene start = (next start).runFrom scene start := rfl

theorem tracksThen {first : Walk α} {next : α → Walk β} {value : α} {result}
    (reads : Tracks first scene deepest ahead (.ok (value, behind)))
    (rest : Tracks (next value) scene deepest behind result) :
    Tracks (first >>= next) scene deepest ahead result := by
  intro start stands
  obtain ⟨middle, run, extended, reached⟩ := reads start stands
  obtain ⟨stop, runRest, further, reachedRest⟩ := rest middle (reached value behind rfl)
  refine ⟨stop, ?_, extendsTrans extended further, reachedRest⟩
  rw [runBind, run]
  exact runRest

theorem tracksStop {first : Walk α} {next : α → Walk β} {reason : Stop}
    (stops : Tracks first scene deepest ahead (.error reason)) :
    Tracks (first >>= next) scene deepest ahead (.error reason) := by
  intro start stands
  obtain ⟨stop, run, extended, -⟩ := stops start stands
  refine ⟨stop, ?_, extended, fun value behind impossible => by cases impossible⟩
  rw [runBind, run]
  rfl

theorem tracksPure (value : α) :
    Tracks (pure value) scene deepest ahead (.ok (value, ahead)) := by
  intro start stands
  exact ⟨start, rfl, extendsSelf stands, fun _ _ same => by cases same; exact stands⟩

theorem tracksThrow (reason : Stop) :
    Tracks (throw reason : Walk α) scene deepest ahead (.error reason) := by
  intro start stands
  exact ⟨start, rfl, extendsSelf stands, fun _ _ impossible => by cases impossible⟩

theorem tracksMap {first : Walk α} {result} (f : α → β)
    (reads : Tracks first scene deepest ahead result) :
    Tracks (do return f (← first)) scene deepest ahead
      (result.map fun (value, behind) => (f value, behind)) := by
  cases result with
  | ok found => exact tracksThen reads (tracksPure (f found.1))
  | error reason => exact tracksStop reads

theorem tracksPlace {next : Nat → Walk α} {result}
    (rest : ∀ place, StandsAt scene.text place ahead →
      Tracks (next place) scene deepest ahead result) :
    Tracks (Walk.place >>= next) scene deepest ahead result := by
  intro start stands
  exact rest start.place stands start stands

theorem tracksRounds {next : Nat → Walk α} {result}
    (rest : ∀ rounds, ahead.length ≤ rounds →
      Tracks (next (rounds + 1)) scene deepest ahead result) :
    Tracks (Walk.rounds >>= next) scene deepest ahead result := by
  intro start stands
  exact rest scene.text.length (standsShorter stands) start stands

theorem tracksAheadBy {width : Nat} (passed : Text) (same : String.utf8Len passed = width) :
    Tracks (Walk.aheadBy width) scene deepest (passed ++ behind)
      (.ok (behind, passed ++ behind)) := by
  subst same
  intro start stands
  have seen := behindStands (standsBehind stands)
  refine ⟨start, ?_, extendsSelf stands, fun _ _ same => by cases same; exact stands⟩
  unfold Walk.aheadBy
  rw [runRead, runGet, seen]
  rfl

theorem tracksPeek : Tracks Walk.peek scene deepest ahead (.ok (ahead.head?, ahead)) :=
  tracksMap List.head? (tracksAheadBy [] rfl)

theorem tracksMoveBy {width : Nat} (passed : Text) (same : String.utf8Len passed = width)
    (within : scene.level ≤ deepest) :
    Tracks (Walk.moveBy width) scene deepest (passed ++ behind) (.ok ((), behind)) := by
  subst same
  intro start stands
  have moved := standsBehind stands
  let place := start.place + String.utf8Len passed
  refine ⟨⟨place, ⟨place, scene.level⟩ :: start.visits⟩, rfl,
    ⟨⟨behind, moved⟩, [⟨place, scene.level⟩], rfl, ?_⟩, ?_⟩
  · intro visit found
    cases List.mem_singleton.mp found
    exact ⟨⟨behind, moved⟩, within⟩
  · intro _ _ same
    cases same
    exact moved

theorem tracksDeeper {walk : Walk α} {result} (within : scene.level + 1 ≤ deepest)
    (reads : Tracks walk ⟨scene.text, scene.level + 1⟩ deepest ahead result) :
    Tracks walk.deeper scene deepest ahead result := by
  have entered : Tracks (Walk.moveBy 0) ⟨scene.text, scene.level + 1⟩ deepest ahead (.ok ((), ahead)) :=
    tracksMoveBy [] rfl within
  have both : Tracks (do Walk.moveBy 0; walk) ⟨scene.text, scene.level + 1⟩ deepest ahead result :=
    tracksThen entered reads
  intro start stands
  obtain ⟨stop, run, extended, reached⟩ := both start stands
  exact ⟨stop, run, ⟨extended.stands, extended.fresh⟩, reached⟩

theorem tracksMove {c : Char} {width : Nat} (same : c.utf8Size = width)
    (within : scene.level ≤ deepest) :
    Tracks (Walk.moveBy width) scene deepest (c :: behind) (.ok ((), behind)) :=
  tracksMoveBy [c] (by simp [same]) within

end Steps

end CqlSchema.DataType

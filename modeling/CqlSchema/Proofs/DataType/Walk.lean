import CqlSchema.DataType.Parser
import Mathlib

/-! The reader of types as a walk through one text. A walk holds a place, counted in the bytes of
UTF-8, and sees what stands there; each step moves the place by a width and leaves a visit on the
trail, which stays when the walk is stopped. A step past the end or into a character is possible here
and is found at the next look. A loop has one round more than the text has characters. -/
namespace CqlSchema

/-- The text from a place on, if a character starts there or the text ends there. -/
def Text.behind? : Text → Nat → Option Text
  | text, 0 => some text
  | [], _ + 1 => none
  | c :: rest, place + 1 =>
    if c.utf8Size ≤ place + 1 then Text.behind? rest (place + 1 - c.utf8Size) else none

namespace DataType

/-- A place that a walk has reached, and the number of types it was reading there. -/
structure Visit where
  place : Nat
  level : Nat
  deriving DecidableEq, Repr

/-- The last visit stands first. -/
structure Trail where
  place : Nat
  visits : List Visit
  deriving DecidableEq, Repr

structure Scene where
  text : Text
  level : Nat
  deriving DecidableEq, Repr

/-- Why a walk ends without a value. It goes astray if it looks from a place that is none of the
text, and is endless if a loop uses up its rounds. -/
inductive Stop
  | refused (fault : TypeFault)
  | expected (c : Char)
  | astray
  | endless
  deriving DecidableEq, Repr

abbrev Walk := ReaderT Scene (ExceptT Stop (StateM Trail))

namespace Walk

def runFrom {α : Type} (scene : Scene) (start : Trail) (walk : Walk α) : Except Stop α × Trail :=
  ((walk.run scene).run).run start

def outcome {α : Type} (walk : Walk α) (scene : Scene) (place : Nat) : Except Stop α :=
  (walk.runFrom scene ⟨place, []⟩).1

def trail {α : Type} (walk : Walk α) (scene : Scene) (place : Nat) : Trail :=
  (walk.runFrom scene ⟨place, []⟩).2

def place : Walk Nat := return (← get).place

def rounds : Walk Nat := return (← read).text.length + 1

def aheadBy (width : Nat) : Walk Text := do
  match Text.behind? (← read).text ((← get).place + width) with
  | some ahead => return ahead
  | none => throw .astray

def peek : Walk (Option Char) := return (← aheadBy 0).head?

def moveBy (width : Nat) : Walk Unit := do
  let level := (← read).level
  modify fun trail => ⟨trail.place + width, ⟨trail.place + width, level⟩ :: trail.visits⟩

/-- A walk that reads one more type, which is a visit before its first step. -/
def deeper {α : Type} (walk : Walk α) : Walk α :=
  withReader (fun scene => ⟨scene.text, scene.level + 1⟩) do
    moveBy 0
    walk

def passWhile (p : Char → Bool) (width : Char → Nat) : Nat → Walk Text
  | 0 => throw .endless
  | rounds + 1 => do
    match ← peek with
    | none => return []
    | some c =>
      if p c then
        moveBy (width c)
        return c :: (← passWhile p width rounds)
      else return []

def passBlanks : Walk Unit := do
  let _ ← passWhile Text.isBlank Char.utf8Size (← rounds)

def pass (c : Char) : Walk Unit := do
  passBlanks
  if (← peek) = some c then moveBy 1 else throw (.expected c)

def passEnclosed : Nat → Walk Text
  | 0 => throw .endless
  | rounds + 1 => do
    match ← peek with
    | none => throw (.refused .unclosedName)
    | some c =>
      if c = '"' then
        if (← aheadBy 1).head? = some '"' then
          moveBy 2
          return '"' :: (← passEnclosed rounds)
        else
          moveBy 1
          return []
      else
        moveBy c.utf8Size
        return c :: (← passEnclosed rounds)

/-- From an opening quote on: it is passed unseen. -/
def quoted : Walk Text := do
  moveBy 1
  passEnclosed (← rounds)

def word : Walk Text := do
  let start ← place
  let passed ← passWhile isWordChar (fun _ => 1) (← rounds)
  if (← place) = start then throw (.refused .nameExpected) else return passed

def segment : Walk Text := do
  if (← peek) = some '"' then quoted else word

def segments : Nat → Walk Text
  | 0 => throw .endless
  | rounds + 1 => do
    let first ← segment
    if (← peek) = some '.' then
      moveBy 1
      return first ++ '.' :: (← segments rounds)
    else return first

def name : Walk Text := do
  passBlanks
  segments (← rounds)

def more (item : Walk DataType) : Nat → Walk (List DataType)
  | 0 => throw .endless
  | rounds + 1 => do
    passBlanks
    match ← peek with
    | some ',' =>
      moveBy 1
      let type ← item
      return type :: (← more item rounds)
    | some '>' =>
      moveBy 1
      return []
    | _ => throw (.refused .commaOrBracketExpected)

def arguments (item : Walk DataType) : Walk (List DataType) := do
  pass '<'
  let first ← item
  return first :: (← more item (← rounds))

def argumentsIfAny (item : Walk DataType) : Walk (Option (List DataType)) := do
  if (← peek) = some '<' then return some (← arguments item) else return none

def denoted (spelled : Text) (arguments : Option (List DataType)) : Walk DataType :=
  match ofParts spelled arguments with
  | .ok type => return type
  | .error fault => throw (.refused fault)

def type : Nat → Walk DataType
  | 0 => throw (.refused .nestedTooDeep)
  | depth + 1 => deeper do
    let spelled ← name
    passBlanks
    denoted spelled (← argumentsIfAny (type depth))

/-- The walk through a text that is to be one type. -/
def whole (text : Text) : Walk DataType := do
  let type ← type (text.length + 1)
  passBlanks
  if (← place) < String.utf8Len text then throw (.refused .trailingText) else return type

end Walk
end DataType
end CqlSchema

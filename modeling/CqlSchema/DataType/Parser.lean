import CqlSchema.DataType.Basic
import CqlSchema.Text.Blank
import CqlSchema.Text.Lowercase
import CqlSchema.Text.Quoted

/-! Types read from text. A type is a name and, in angle brackets, the types it is built from;
blanks may stand before a name, a comma and a bracket. Each reader gives what it has read and the
text behind it. -/
namespace CqlSchema

inductive TypeFault
  | nameExpected
  | unclosedName
  | commaOrBracketExpected
  | oneArgumentExpected (name : String)
  | keyAndValueExpected
  | elementExpected
  | unexpectedArguments (name : String)
  | trailingText
  | nestedTooDeep
  deriving DecidableEq, Repr

def TypeFault.message : TypeFault → String
  | nameExpected => "expected a type name"
  | unclosedName => "unterminated quoted name"
  | commaOrBracketExpected => "expected ',' or '>'"
  | oneArgumentExpected name => name ++ " requires exactly one type argument"
  | keyAndValueExpected => "map requires a key and a value type"
  | elementExpected => "tuple requires at least one type argument"
  | unexpectedArguments name => "type '" ++ name ++ "' takes no type arguments"
  | trailingText => "unexpected trailing input"
  | nestedTooDeep => "types are nested too deeply"

structure TypeError where
  input : String
  fault : TypeFault
  deriving DecidableEq, Repr

def TypeError.message (error : TypeError) : String :=
  "Invalid data type '" ++ error.input ++ "': " ++ error.fault.message

namespace DataType

def isWordChar (c : Char) : Bool := c.isAlphanum || c == '_'

def readSegment (text : Text) : Except TypeFault (Text × Text) :=
  match text with
  | '"' :: rest =>
    match Text.readEnclosed '"' rest with
    | some found => .ok found
    | none => .error .unclosedName
  | _ =>
    let word := text.takeWhile isWordChar
    if word.isEmpty then .error .nameExpected else .ok (word, text.dropWhile isWordChar)

theorem dropWhileShorter {p : Char → Bool} {text : Text} (kept : text.takeWhile p ≠ []) :
    (text.dropWhile p).length < text.length := by
  have whole := congrArg List.length (List.takeWhile_append_dropWhile (p := p) (l := text))
  have := List.length_pos_iff.2 kept
  rw [List.length_append] at whole
  omega

theorem readSegmentShorter {text segment rest : Text}
    (read : readSegment text = .ok (segment, rest)) : rest.length < text.length := by
  unfold readSegment at read
  split at read
  · split at read
    · rename_i tail _ found enclosed
      cases read
      have := Text.readEnclosedShorter enclosed
      simp only [List.length_cons]
      omega
    · cases read
  · simp only at read
    split at read
    · cases read
    · rename_i kept
      cases read
      exact dropWhileShorter (by simpa using kept)

def readName (text : Text) : Except TypeFault (Text × Text) :=
  match h : readSegment text with
  | .error fault => .error fault
  | .ok (segment, '.' :: rest) =>
    have : rest.length < text.length := by
      have := readSegmentShorter h
      simp only [List.length_cons] at this
      omega
    match readName rest with
    | .error fault => .error fault
    | .ok (name, rest) => .ok (segment ++ '.' :: name, rest)
  | .ok (segment, rest) => .ok (segment, rest)
termination_by text.length

/-- The type that a name denotes with the types in brackets behind it, if there are brackets. -/
def ofParts (spelled : Text) (arguments : Option (List DataType)) : Except TypeFault DataType :=
  let name := String.ofList (Text.lowercase spelled)
  match name, arguments with
  | "list", some [element] => .ok (list element)
  | "set", some [element] => .ok (set element)
  | "frozen", some [inner] => .ok (frozen inner)
  | "map", some [key, value] => .ok (map key value)
  | "tuple", some elements => .ok (tuple elements)
  | "list", _ | "set", _ | "frozen", _ => .error (.oneArgumentExpected name)
  | "map", _ => .error .keyAndValueExpected
  | "tuple", none => .error .elementExpected
  | _, some _ => .error (.unexpectedArguments name)
  | _, none =>
    match NativeType.ofName? name with
    | some type => .ok (native type)
    | none => .ok (defined (String.ofList spelled))

/-- The types behind the first one up to the closing bracket, each read by `item`. -/
def readMore (item : Text → Except TypeFault (DataType × Text)) (text : Text) :
    Except TypeFault (List DataType × Text) :=
  match Text.skipBlanks text with
  | '>' :: rest => .ok ([], rest)
  | ',' :: rest =>
    match item rest with
    | .error fault => .error fault
    | .ok (type, behind) =>
      if behind.length < text.length then
        match readMore item behind with
        | .error fault => .error fault
        | .ok (types, behind) => .ok (type :: types, behind)
      else .error .commaOrBracketExpected
  | _ => .error .commaOrBracketExpected
termination_by text.length

def readType : Nat → Text → Except TypeFault (DataType × Text)
  | 0, _ => .error .nestedTooDeep
  | depth + 1, text =>
    match readName (Text.skipBlanks text) with
    | .error fault => .error fault
    | .ok (spelled, behind) =>
      match Text.skipBlanks behind with
      | '<' :: behind =>
        match readType depth behind with
        | .error fault => .error fault
        | .ok (first, behind) =>
          match readMore (readType depth) behind with
          | .error fault => .error fault
          | .ok (rest, behind) => (ofParts spelled (some (first :: rest))).map (·, behind)
      | behind => (ofParts spelled none).map (·, behind)

/-- A type that fills the text, blanks behind it apart. Each type inside another takes a bracket of
its own, so the text is never nested deeper than it is long. -/
def ofText (text : Text) : Except TypeFault DataType :=
  match readType (text.length + 1) text with
  | .error fault => .error fault
  | .ok (type, behind) => if (Text.skipBlanks behind).isEmpty then .ok type else .error .trailingText

def parse (input : String) : Except TypeError DataType :=
  match ofText input.toList with
  | .ok type => .ok type
  | .error fault => .error ⟨input, fault⟩

end DataType
end CqlSchema

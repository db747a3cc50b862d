import CqlSchema.Text.Basic

/-! The types of columns: a native one, one built from others, or a type the keyspace defines. -/
namespace CqlSchema

inductive NativeType
  | ascii | bigint | blob | boolean | counter | date | decimal | double | duration | float | inet
  | int | smallint | text | time | timestamp | timeuuid | tinyint | uuid | varchar | varint
  deriving DecidableEq, Repr

namespace NativeType

def name : NativeType → String
  | ascii => "ascii"
  | bigint => "bigint"
  | blob => "blob"
  | boolean => "boolean"
  | counter => "counter"
  | date => "date"
  | decimal => "decimal"
  | double => "double"
  | duration => "duration"
  | float => "float"
  | inet => "inet"
  | int => "int"
  | smallint => "smallint"
  | text => "text"
  | time => "time"
  | timestamp => "timestamp"
  | timeuuid => "timeuuid"
  | tinyint => "tinyint"
  | uuid => "uuid"
  | varchar => "varchar"
  | varint => "varint"

def all : List NativeType :=
  [ascii, bigint, blob, boolean, counter, date, decimal, double, duration, float, inet, int,
   smallint, text, time, timestamp, timeuuid, tinyint, uuid, varchar, varint]

def ofName? (name : String) : Option NativeType := all.find? (·.name == name)

theorem nameOfFound {name : String} {native : NativeType}
    (found : ofName? name = some native) : native.name = name := by
  simpa using List.find?_some found

end NativeType

/-- A type. A defined one carries its name, with a point between keyspace and name if both are
given. -/
inductive DataType
  | native (type : NativeType)
  | list (element : DataType)
  | set (element : DataType)
  | map (key value : DataType)
  | tuple (elements : List DataType)
  | frozen (inner : DataType)
  | defined (name : String)
  deriving Repr, Inhabited

namespace DataType

mutual

def same : DataType → DataType → Bool
  | native first, native second => first == second
  | list first, list second => same first second
  | set first, set second => same first second
  | map firstKey firstValue, map secondKey secondValue =>
    same firstKey secondKey && same firstValue secondValue
  | tuple first, tuple second => sameAll first second
  | frozen first, frozen second => same first second
  | defined first, defined second => first == second
  | _, _ => false

def sameAll : List DataType → List DataType → Bool
  | [], [] => true
  | first :: firstRest, second :: secondRest => same first second && sameAll firstRest secondRest
  | _, _ => false

end

instance : BEq DataType := ⟨same⟩

mutual

theorem sameEq : ∀ first second : DataType, same first second = true → first = second
  | native first, second, equal => by cases second <;> simp_all [same]
  | list first, second, equal => by
    cases second <;> simp only [same, Bool.false_eq_true] at equal
    rw [sameEq _ _ equal]
  | set first, second, equal => by
    cases second <;> simp only [same, Bool.false_eq_true] at equal
    rw [sameEq _ _ equal]
  | map key value, second, equal => by
    cases second <;> simp only [same, Bool.false_eq_true, Bool.and_eq_true] at equal
    rw [sameEq _ _ equal.1, sameEq _ _ equal.2]
  | tuple first, second, equal => by
    cases second <;> simp only [same, Bool.false_eq_true] at equal
    rw [sameAllEq _ _ equal]
  | frozen first, second, equal => by
    cases second <;> simp only [same, Bool.false_eq_true] at equal
    rw [sameEq _ _ equal]
  | defined first, second, equal => by cases second <;> simp_all [same]

theorem sameAllEq : ∀ first second : List DataType, sameAll first second = true → first = second
  | [], second, equal => by cases second <;> simp_all [sameAll]
  | type :: rest, second, equal => by
    cases second <;> simp only [sameAll, Bool.false_eq_true, Bool.and_eq_true] at equal
    rw [sameEq _ _ equal.1, sameAllEq _ _ equal.2]

end

mutual

theorem sameRefl : ∀ type : DataType, same type type = true
  | native _ => by simp [same]
  | list element => by rw [same, sameRefl element]
  | set element => by rw [same, sameRefl element]
  | map key value => by rw [same, sameRefl key, sameRefl value]; rfl
  | tuple elements => by rw [same, sameAllRefl elements]
  | frozen inner => by rw [same, sameRefl inner]
  | defined _ => by simp [same]

theorem sameAllRefl : ∀ types : List DataType, sameAll types types = true
  | [] => rfl
  | type :: rest => by rw [sameAll, sameRefl type, sameAllRefl rest]; rfl

end

instance : LawfulBEq DataType where
  eq_of_beq := sameEq _ _
  rfl := sameRefl _

def isCollection : DataType → Bool
  | list _ | set _ | map _ _ => true
  | _ => false

def isCounter : DataType → Bool
  | native .counter => true
  | _ => false

def canBeKey (type : DataType) : Bool := !type.isCounter && !type.isCollection

end DataType
end CqlSchema

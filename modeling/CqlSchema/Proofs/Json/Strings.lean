import CqlSchema.Json.Reader
import CqlSchema.Json.Writer

/-! Strings read back: the reader stops at the closing quote of what was written, and the units it
finds spell the string again. -/
namespace CqlSchema.Json

/-- The unit as which a written character is read. Only a control character without an escape of
its own is written by its code. -/
def unitOf (c : Char) : StringUnit :=
  if c.toNat < 0x20 ∧ c ∉ ['\x08', '\t', '\n', '\x0c', '\x0d'] then .code c.toNat else .char c

theorem unitBefore {rest : Text} {unit : StringUnit} :
    (do let (units, behind) ← readUnits rest
        some (unit :: units, behind)) =
      (readUnits rest).map fun read => (unit :: read.1, read.2) := by
  cases readUnits rest <;> rfl

theorem readEscape {c d : Char} {rest : Text} (escape : escaped? c = some d) (noCode : c ≠ 'u') :
    readUnits ('\\' :: c :: rest) =
      (readUnits rest).map fun read => (.char d :: read.1, read.2) := by
  rw [readUnits, escape]
  · exact unitBefore
  · rintro _ _ _ _ _ rfl
    exact absurd rfl noCode

theorem hexPairValue {n : Nat} (control : n < 0x20) :
    Decimal.natural? 16 ('0' :: '0' :: hexPair n) = some n := by
  have all : ∀ n < 0x20, Decimal.natural? 16 ('0' :: '0' :: hexPair n) = some n := by decide
  exact all n control

theorem readCode {n : Nat} (control : n < 0x20) (rest : Text) :
    readUnits ('\\' :: 'u' :: '0' :: '0' :: (hexPair n ++ rest)) =
      (readUnits rest).map fun read => (.code n :: read.1, read.2) := by
  have value := hexPairValue control
  unfold hexPair at value ⊢
  rw [List.cons_append, List.cons_append, List.nil_append, readUnits, value]
  exact unitBefore

theorem readPlain {c : Char} {rest : Text} (noQuote : c ≠ '"') (noBackslash : c ≠ '\\')
    (visible : ¬c.toNat < 0x20) :
    readUnits (c :: rest) = (readUnits rest).map fun read => (.char c :: read.1, read.2) := by
  have ordinary : (c == '\\' || decide (c.toNat < 0x20)) = false := by simp [noBackslash, visible]
  rw [readUnits]
  · simp only [ordinary, Bool.false_eq_true, if_false]
    exact unitBefore
  · exact noQuote
  · rintro _ _ _ _ _ same -
    exact noBackslash same
  · rintro _ _ same -
    exact noBackslash same

theorem readWrittenChar (c : Char) (rest : Text) :
    readUnits (writtenChar c ++ rest) =
      (readUnits rest).map fun read => (unitOf c :: read.1, read.2) := by
  unfold writtenChar unitOf
  -- The first seven characters have escapes of their own.
  iterate 7
    split
    · subst c
      exact readEscape rfl (by decide)
  split
  · rename_i control
    rw [if_pos ⟨control, by simp [*]⟩]
    exact readCode control rest
  · rename_i visible
    rw [if_neg (visible ·.1)]
    exact readPlain ‹_› ‹_› visible

theorem readUnitsWritten (value rest : Text) :
    readUnits (value.flatMap writtenChar ++ '"' :: rest) = some (value.map unitOf, rest) := by
  induction value with
  | nil => rfl
  | cons c value ih => rw [List.flatMap_cons, List.append_assoc, readWrittenChar, ih]; rfl

theorem spelledUnit (c : Char) (units : List StringUnit) :
    spelled (unitOf c :: units) = (spelled units).map (c :: ·) := by
  unfold unitOf
  split
  · rename_i control
    have noTrailing : isTrailing c.toNat = false := by
      simp only [isTrailing, Bool.and_eq_false_iff, decide_eq_false_iff_not]
      omega
    have noLeading : isLeading c.toNat = false := by
      simp only [isLeading, Bool.and_eq_false_iff, decide_eq_false_iff_not]
      omega
    rw [spelled.eq_def]
    simp [noTrailing, noLeading, Char.ofNat_toNat]
  · rfl

theorem spelledUnits (value : Text) : spelled (value.map unitOf) = .ok value := by
  induction value with
  | nil => rfl
  | cons c value ih => rw [List.map_cons, spelledUnit, ih]; rfl

theorem readStringWritten (value : String) (rest : Text) :
    readString (value.toList.flatMap writtenChar ++ '"' :: rest) = some (.ok value, rest) := by
  simp [readString, readUnitsWritten, spelledUnits, Except.map]

end CqlSchema.Json

import CqlSchema.Name
import CqlSchema.Proofs.Text.Settled

/-! Where the text of a name starts and ends. -/
namespace CqlSchema

namespace Name

theorem plainFilled {text : Text} (plain : isPlain text = true) : text ≠ [] := by
  rintro rfl
  simp [isPlain] at plain

theorem plainChars {text : Text} (plain : isPlain text = true) :
    ∀ c ∈ text, isPlainChar c = true := by
  cases text with
  | nil => simp
  | cons first rest =>
    simp only [isPlain, Bool.and_eq_true, List.all_eq_true] at plain
    intro c inside
    rcases List.mem_cons.mp inside with rfl | behind
    · simp [isPlainChar, plain.1]
    · exact plain.2 c behind

def opens (c : Char) : Bool := c.isLower || c == '"'

/-- A letter that may go on with a name that stood without it. -/
def continues (c : Char) : Bool := isPlainChar c || c == '"'

theorem textOpens (name : String) : ∃ c rest, text name = c :: rest ∧ opens c = true := by
  unfold text
  split
  · rename_i plain
    simp only [Bool.and_eq_true] at plain
    cases shape : name.toList with
    | nil => simp [shape, isPlain] at plain
    | cons c rest =>
      have small := plain.1
      simp only [shape, isPlain, Bool.and_eq_true] at small
      exact ⟨c, rest, rfl, by simp [opens, small.1]⟩
  · exact ⟨'"', _, rfl, rfl⟩

theorem textApart (name : String) {text : Text} (other : Text.Avoids opens text) (rest : Text) :
    text ≠ Name.text name ++ rest := by
  rintro rfl
  obtain ⟨c, more, shape, opening⟩ := textOpens name
  rw [shape, List.cons_append, Text.avoidsCons, opening] at other
  cases other

theorem plainUnquoted {plain : Text} (isOne : isPlain plain = true) (content r s : Text) :
    plain ++ r ≠ Text.enclosed '"' content ++ s := by
  cases plain with
  | nil => simp [isPlain] at isOne
  | cons c rest =>
    intro whole
    have first : c = '"' := List.head_eq_of_cons_eq whole
    simp [first, isPlain] at isOne

theorem settledText (first second : String) :
    Text.Settled (Text.Avoids continues) (text first) (text second) (first = second) := by
  unfold text
  split <;> split
  · rename_i left right
    simp only [Bool.and_eq_true] at left right
    refine Text.settledMono (Text.settledImp
      (Text.settledRun (plainChars left.1) (plainChars right.1)) String.toList_inj.mp) ?_
    exact fun r => Text.avoidsMono fun c plain => by simp [continues, plain]
  · rename_i left _
    simp only [Bool.and_eq_true] at left
    exact fun r s _ _ whole => absurd whole (plainUnquoted left.1 _ r s)
  · rename_i _ right
    simp only [Bool.and_eq_true] at right
    exact fun r s _ _ whole => absurd whole.symm (plainUnquoted right.1 _ s r)
  · refine Text.settledMono (Text.settledImp (Text.settledEnclosed '"' _ _) String.toList_inj.mp) ?_
    exact fun r avoids => Text.avoidsHead avoids rfl

end Name

namespace QualifiedName

def continues (c : Char) : Bool := Name.continues c || c == '.'

theorem endsName {text : Text} (avoids : Text.Avoids continues text) :
    Text.Avoids Name.continues text :=
  Text.avoidsMono (fun c goes => by simp [continues, goes]) avoids

theorem textApart (name : QualifiedName) {text : Text} (other : Text.Avoids Name.opens text)
    (rest : Text) : text ≠ name.text ++ rest := by
  unfold QualifiedName.text
  split
  · rw [List.append_assoc]
    exact Name.textApart _ other _
  · exact Name.textApart _ other rest

theorem qualifiedApart (keyspace name other : String) (r : Text) {s : Text}
    (stop : Text.Avoids continues s) :
    Name.text keyspace ++ '.' :: (Name.text name ++ r) ≠ Name.text other ++ s := by
  intro whole
  have point : Text.Avoids Name.continues ('.' :: (Name.text name ++ r)) := by
    rw [Text.avoidsCons]
    decide
  obtain ⟨-, tails⟩ := Name.settledText keyspace other _ _ point (endsName stop) whole
  rw [← tails, Text.avoidsCons] at stop
  cases stop

theorem settledText (first second : QualifiedName) :
    Text.Settled (Text.Avoids continues) first.text second.text (first = second) := by
  obtain ⟨keyspace, name⟩ := first
  obtain ⟨other, word⟩ := second
  cases keyspace with
  | none =>
    cases other with
    | none =>
      refine Text.settledMono (Text.settledImp (Name.settledText name word) ?_) fun r => endsName
      rintro rfl
      rfl
    | some other =>
      intro r s left _ whole
      exact absurd (by simpa [text] using whole.symm) (qualifiedApart other word name s left)
  | some keyspace =>
    cases other with
    | none =>
      intro r s _ right whole
      exact absurd (by simpa [text] using whole) (qualifiedApart keyspace name word r right)
    | some other =>
      have point : ∀ r : Text, Text.Avoids Name.continues ('.' :: r) := by
        intro r
        rw [Text.avoidsCons]
        decide
      have names := Text.settledMono (Name.settledText name word) fun r => endsName
      have both := Text.settledAppend (Name.settledText keyspace other)
        (fun _ => Text.settledBehind ['.'] names) (fun r _ => point _) (fun r _ => point _)
      refine Text.settledImp both ?_
      rintro ⟨rfl, rfl⟩
      rfl

end QualifiedName

end CqlSchema

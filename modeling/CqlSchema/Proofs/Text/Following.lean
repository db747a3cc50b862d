import CqlSchema.Text.Blank
import CqlSchema.Text.Quoted
import Mathlib.Data.List.DropRight
import Mathlib.Data.List.TakeWhile

/-! What may follow a piece of text that a reader takes as far as it goes. Lists of characters end
where their class ends, quoted text where its closing quote is not doubled. -/
namespace CqlSchema.Text

/-- No character of the class stands first. -/
def Avoids (p : Char → Bool) (text : Text) : Prop := ∀ c ∈ text.head?, p c = false

@[simp] theorem avoidsNil (p : Char → Bool) : Avoids p [] := by simp [Avoids]

@[simp] theorem avoidsCons (p : Char → Bool) (c : Char) (rest : Text) :
    Avoids p (c :: rest) ↔ p c = false := by simp [Avoids]

theorem avoidsMono {p q : Char → Bool} {text : Text} (wider : ∀ c, q c = true → p c = true)
    (avoids : Avoids p text) : Avoids q text := by
  cases text with
  | nil => simp
  | cons c rest =>
    rw [avoidsCons] at avoids ⊢
    by_contra still
    exact absurd (wider c (by simpa using still)) (by simp [avoids])

theorem avoidsFirst {p : Char → Bool} {text : Text} {c : Char} (first : text.head? = some c)
    (other : p c = false) : Avoids p text := by
  intro d same
  cases first.symm.trans same
  exact other

theorem avoidsHead {p : Char → Bool} {text : Text} {c : Char} (avoids : Avoids p text)
    (stop : p c = true) : text.head? ≠ some c := by
  intro first
  exact absurd (avoids c first) (by simp [stop])

theorem takeRun {p : Char → Bool} {run after : Text} (all : ∀ c ∈ run, p c = true)
    (stop : Avoids p after) : (run ++ after).takeWhile p = run := by
  rw [List.takeWhile_append_of_pos all]
  cases after with
  | nil => simp
  | cons c rest => simp [(avoidsCons p c rest).mp stop]

theorem dropRun {p : Char → Bool} {run after : Text} (all : ∀ c ∈ run, p c = true)
    (stop : Avoids p after) : (run ++ after).dropWhile p = after := by
  rw [List.dropWhile_append_of_pos all]
  cases after with
  | nil => simp
  | cons c rest => simp [(avoidsCons p c rest).mp stop]

theorem readEnclosedSource {quote : Char} {text content after : Text}
    (read : readEnclosed quote text = some (content, after)) :
    text = doubled quote content ++ quote :: after ∧ after.head? ≠ some quote := by
  fun_induction readEnclosed quote text generalizing content with
  | case1 => cases read
  | case2 => cases read; simp [doubled]
  | case3 => cases read
  | case4 rest ih =>
    obtain ⟨⟨inner, behind⟩, inside, same⟩ := Option.map_eq_some_iff.mp read
    cases same
    obtain ⟨whole, stop⟩ := ih inside
    exact ⟨by simp [doubled, whole], stop⟩
  | case5 d rest other =>
    cases read
    exact ⟨by simp [doubled], by simpa using other⟩
  | case6 c d rest plain ih =>
    obtain ⟨⟨inner, behind⟩, inside, same⟩ := Option.map_eq_some_iff.mp read
    cases same
    obtain ⟨whole, stop⟩ := ih inside
    exact ⟨by simp [doubled, plain, whole], stop⟩

theorem skipBlanksIdem (text : Text) : skipBlanks (skipBlanks text) = skipBlanks text := by
  exact List.dropWhile_idempotent ..

theorem skipBlanksAppend {blanks : Text} (all : ∀ c ∈ blanks, isBlank c = true) (text : Text) :
    skipBlanks (blanks ++ text) = skipBlanks text := by
  simp only [skipBlanks, List.dropWhile_append_of_pos all]

theorem skipBlanksCons (c : Char) (solid : isBlank c = false) (rest : Text) :
    skipBlanks (c :: rest) = c :: rest := by
  simp [skipBlanks, solid]

theorem skipBlanksSplit (text : Text) :
    ∃ blanks, text = blanks ++ skipBlanks text ∧ ∀ c ∈ blanks, isBlank c = true := by
  refine ⟨text.takeWhile isBlank, ?_, fun c inside => ?_⟩
  · exact (List.takeWhile_append_dropWhile).symm
  · exact List.mem_takeWhile_imp inside

end CqlSchema.Text

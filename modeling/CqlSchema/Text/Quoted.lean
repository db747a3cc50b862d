import CqlSchema.Text.Basic

/-! Text between quotes, with each quote inside it written twice. A reader that starts behind the
opening quote finds the closing one whatever follows. -/
namespace CqlSchema.Text

def doubled (quote : Char) : Text → Text
  | [] => []
  | c :: rest => if c = quote then quote :: quote :: doubled quote rest else c :: doubled quote rest

def enclosed (quote : Char) (content : Text) : Text := quote :: (doubled quote content ++ [quote])

def readEnclosed (quote : Char) : Text → Option (Text × Text)
  | [] => none
  | [c] => if c = quote then some ([], []) else none
  | c :: d :: rest =>
    if c = quote then
      if d = quote then (readEnclosed quote rest).map fun (content, after) => (quote :: content, after)
      else some ([], d :: rest)
    else (readEnclosed quote (d :: rest)).map fun (content, after) => (c :: content, after)

theorem readEnclosedDoubled (quote : Char) (content after : Text)
    (stop : after.head? ≠ some quote) :
    readEnclosed quote (doubled quote content ++ quote :: after) = some (content, after) := by
  induction content with
  | nil =>
    cases after with
    | nil => simp [doubled, readEnclosed]
    | cons d rest => simp_all [doubled, readEnclosed]
  | cons c rest ih =>
    by_cases same : c = quote
    · simp [doubled, same, readEnclosed, ih]
    · obtain ⟨d, tail, split⟩ : ∃ d tail, doubled quote rest ++ quote :: after = d :: tail := by
        cases shape : doubled quote rest with
        | nil => exact ⟨quote, after, rfl⟩
        | cons d more => exact ⟨d, more ++ quote :: after, rfl⟩
      rw [split] at ih
      simp [doubled, same, split, readEnclosed, ih]

/-- The text behind a closing quote is at least one character shorter. -/
theorem readEnclosedShorter {quote : Char} {text content after : Text}
    (read : readEnclosed quote text = some (content, after)) : after.length < text.length := by
  fun_induction readEnclosed quote text generalizing content <;>
    grind [Option.map_eq_some_iff]

end CqlSchema.Text

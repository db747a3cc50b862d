import CqlSchema.Text.Quoted

/-! A scan of a text from left to right that knows whether it stands inside single or double quotes,
and what is then said about the characters outside them: where a semicolon stands and whether the
brackets match. A text is contained if a scan enters it and leaves it outside quotes, finds no
semicolon on the way and closes every bracket it opens; contained texts stay contained when they
are put together. -/
namespace CqlSchema.Text

def isQuote (c : Char) : Bool := c == '\'' || c == '"'

/-- The quotes around the place behind `c`, given those around the place before it. A quote that is
doubled inside quotes of its kind closes and opens them with nothing in between. -/
def quotingStep (quoting : Option Char) (c : Char) : Option Char :=
  match quoting with
  | none => if isQuote c then some c else none
  | some quote => if c = quote then none else some quote

def quotingAfter (quoting : Option Char) (text : Text) : Option Char :=
  text.foldl quotingStep quoting

def outside (quoting : Option Char) : Text → Text
  | [] => []
  | c :: rest =>
    let next := quotingStep quoting c
    if quoting = none ∧ next = none then c :: outside next rest else outside next rest

def closing? : Char → Option Char
  | '(' => some ')'
  | '<' => some '>'
  | '\x7b' => some '\x7d'
  | _ => none

def isClosing (c : Char) : Bool := c == ')' || c == '>' || c == '\x7d'

/-- The closing brackets that are awaited behind `c`, the next one first. -/
def bracketStep (awaited : List Char) (c : Char) : Option (List Char) :=
  match closing? c with
  | some close => some (close :: awaited)
  | none =>
    if isClosing c then
      match awaited with
      | [] => none
      | next :: awaited => if c = next then some awaited else none
    else some awaited

def unwind (awaited : List Char) (text : Text) : Option (List Char) :=
  text.foldlM bracketStep awaited

def bracketsMatch (text : Text) : Bool := unwind [] text == some []

/-- The pieces of a text up to each semicolon outside quotes. A newline right behind such a
semicolon belongs to no piece. -/
def cutStatements (quoting : Option Char) (piece : Text) : Text → List Text
  | [] => if piece.isEmpty then [] else [piece]
  | c :: rest =>
    if quoting = none ∧ c = ';' then
      match rest with
      | '\n' :: rest => (piece ++ [c]) :: cutStatements none [] rest
      | rest => (piece ++ [c]) :: cutStatements none [] rest
    else cutStatements (quotingStep quoting c) (piece ++ [c]) rest

structure Contained (text : Text) : Prop where
  closed : quotingAfter none text = none
  single : ';' ∉ outside none text
  nested : ∀ awaited, unwind awaited (outside none text) = some awaited

def isHarmless (c : Char) : Bool :=
  !isQuote c && c != ';' && (closing? c).isNone && !isClosing c

theorem quotingAppend (quoting : Option Char) (first second : Text) :
    quotingAfter quoting (first ++ second) = quotingAfter (quotingAfter quoting first) second := by
  simp [quotingAfter]

theorem outsideAppend (quoting : Option Char) (first second : Text) :
    outside quoting (first ++ second) =
      outside quoting first ++ outside (quotingAfter quoting first) second := by
  induction first generalizing quoting with
  | nil => rfl
  | cons c rest ih =>
    simp only [List.cons_append, outside, ih, quotingAfter, List.foldl_cons]
    split <;> rfl

theorem unwindAppend (awaited : List Char) (first second : Text) :
    unwind awaited (first ++ second) = (unwind awaited first).bind (unwind · second) := by
  simp [unwind, List.foldlM_append]

theorem containedNil : Contained [] := ⟨rfl, by simp [outside], fun _ => rfl⟩

theorem containedAppend {first second : Text} (front : Contained first) (rear : Contained second) :
    Contained (first ++ second) where
  closed := by rw [quotingAppend, front.closed, rear.closed]
  single := by
    rw [outsideAppend, front.closed, List.mem_append, not_or]
    exact ⟨front.single, rear.single⟩
  nested awaited := by
    rw [outsideAppend, front.closed, unwindAppend, front.nested, Option.bind_some, rear.nested]

theorem harmlessStep {c : Char} (harmless : isHarmless c = true) : quotingStep none c = none := by
  simp only [isHarmless, Bool.and_eq_true, Bool.not_eq_true'] at harmless
  simp [quotingStep, harmless.1.1.1]

theorem containedHarmless {text : Text} (harmless : ∀ c ∈ text, isHarmless c = true) :
    Contained text := by
  induction text with
  | nil => exact containedNil
  | cons c rest ih =>
    have first := harmless c (by simp)
    have step := harmlessStep first
    obtain ⟨closed, single, nested⟩ := ih fun d inside => harmless d (by simp [inside])
    simp only [isHarmless, Bool.and_eq_true, Bool.not_eq_true', bne_iff_ne, ne_eq,
      Option.isNone_iff_eq_none] at first
    have same : outside none (c :: rest) = c :: outside none rest := by simp [outside, step]
    refine ⟨?_, ?_, fun awaited => ?_⟩
    · simpa [quotingAfter, step] using closed
    · simp [same, single, Ne.symm first.1.1.2]
    · have tail := nested awaited
      simp only [unwind] at tail
      simp [same, unwind, bracketStep, first.1.2, first.2, tail]

theorem insideDoubled {quote : Char} (isOne : isQuote quote = true) (content : Text) :
    quotingAfter (some quote) (doubled quote content) = some quote ∧
      outside (some quote) (doubled quote content) = [] := by
  induction content with
  | nil => exact ⟨rfl, rfl⟩
  | cons c rest ih =>
    by_cases same : c = quote
    · simpa [doubled, same, quotingAfter, outside, quotingStep, isOne] using ih
    · simpa [doubled, same, quotingAfter, outside, quotingStep] using ih

theorem containedEnclosed {quote : Char} (isOne : isQuote quote = true) (content : Text) :
    Contained (enclosed quote content) := by
  obtain ⟨stays, nothing⟩ := insideDoubled isOne content
  have opened : quotingStep none quote = some quote := by simp [quotingStep, isOne]
  have shut : quotingStep (some quote) quote = none := by simp [quotingStep]
  have leaves : quotingAfter none (enclosed quote content) = none := by
    rw [show enclosed quote content = [quote] ++ (doubled quote content ++ [quote]) from rfl,
      quotingAppend, quotingAppend]
    simp only [quotingAfter, List.foldl_cons, List.foldl_nil, opened] at stays ⊢
    rw [stays, shut]
  have silent : outside none (enclosed quote content) = [] := by
    simp [enclosed, outside, opened, outsideAppend, nothing, stays, shut]
  exact ⟨leaves, by simp [silent], fun awaited => by rw [silent]; rfl⟩

theorem closingStep {opening close : Char} (pair : closing? opening = some close) :
    quotingStep none opening = none ∧ quotingStep none close = none ∧ opening ≠ ';' ∧
      close ≠ ';' ∧ closing? close = none ∧ isClosing close = true := by
  unfold closing? at pair
  split at pair <;> cases pair <;> decide

theorem containedBracketed {opening close : Char} {body : Text}
    (pair : closing? opening = some close) (inner : Contained body) :
    Contained (opening :: (body ++ [close])) := by
  obtain ⟨opens, closes, first, last, plain, ends⟩ := closingStep pair
  have seen : outside none (opening :: (body ++ [close])) =
      opening :: (outside none body ++ [close]) := by
    simp [outside, opens, closes, outsideAppend, inner.closed]
  refine ⟨?_, ?_, fun awaited => ?_⟩
  · have leaves := inner.closed
    simp only [quotingAfter] at leaves
    simp [quotingAfter, opens, closes, leaves]
  · simp [seen, inner.single, Ne.symm first, Ne.symm last]
  · have body := inner.nested (close :: awaited)
    simp only [unwind] at body
    simp [seen, unwind, bracketStep, pair, List.foldlM_append, body, plain, ends]

theorem containedFlatMap {α : Type} {parts : List α} {written : α → Text}
    (each : ∀ part ∈ parts, Contained (written part)) : Contained (parts.flatMap written) := by
  induction parts with
  | nil => exact containedNil
  | cons part rest ih =>
    rw [List.flatMap_cons]
    exact containedAppend (each part (by simp)) (ih fun other inside => each other (by simp [inside]))

theorem containedJoined {separator : Text} {parts : List Text} (between : Contained separator)
    (each : ∀ part ∈ parts, Contained part) : Contained (joined separator parts) := by
  cases parts with
  | nil => exact containedNil
  | cons part rest =>
    refine containedAppend (each part (by simp)) (containedFlatMap fun other inside => ?_)
    exact containedAppend between (each other (by simp [inside]))

theorem cutStatementsThrough {body : Text} {quoting : Option Char}
    (single : ';' ∉ outside quoting body) (piece rest : Text) :
    cutStatements quoting piece (body ++ rest) =
      cutStatements (quotingAfter quoting body) (piece ++ body) rest := by
  induction body generalizing quoting piece with
  | nil => simp [quotingAfter]
  | cons c more ih =>
    have whole : ¬ (quoting = none ∧ c = ';') := by
      rintro ⟨rfl, rfl⟩
      exact single (by simp [outside, quotingStep, isQuote])
    have tail : ';' ∉ outside (quotingStep quoting c) more := by
      intro inside
      apply single
      simp only [outside]
      split
      · exact List.mem_cons_of_mem _ inside
      · exact inside
    rw [List.cons_append, cutStatements.eq_def]
    simp only [if_neg whole]
    rw [ih tail]
    simp [quotingAfter]

/-- Statements that are contained up to their semicolons are found again behind one another, each
on a line of its own. -/
theorem cutStatementsLines {script : List Text}
    (each : ∀ text ∈ script, ∃ body, text = body ++ [';'] ∧ Contained body) :
    cutStatements none [] (script.flatMap (· ++ ['\n'])) = script := by
  induction script with
  | nil => rfl
  | cons text rest ih =>
    obtain ⟨body, rfl, contained⟩ := each text (by simp)
    have tail := ih fun other inside => each other (by simp [inside])
    rw [List.flatMap_cons, List.append_assoc, List.append_assoc,
      cutStatementsThrough contained.single, contained.closed]
    simp [cutStatements, tail]

end CqlSchema.Text

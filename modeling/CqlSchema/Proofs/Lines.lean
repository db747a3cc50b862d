import CqlSchema.Proofs.Files
import CqlSchema.Proofs.Statement.Containment
import CqlSchema.Proofs.Statement.LineBreaks

/-! A script line by line. Each statement ends its line, and so does a line break in a name or a value:
the lines of a script are its statements exactly if nothing that they copy has a line break. -/
namespace CqlSchema

namespace Text

theorem splitBehind (before behind : Text) :
    (before ++ '\n' :: behind).splitOn '\n' = before.splitOn '\n' ++ behind.splitOn '\n' :=
  List.splitOnP_append_cons before behind (by decide)

theorem splitUnbroken {text : Text} (unbroken : '\n' ∉ text) : text.splitOn '\n' = [text] :=
  List.splitOnP_eq_singleton fun _ inside =>
    beq_eq_false_iff_ne.mpr (ne_of_mem_of_not_mem inside unbroken)

theorem piecesUnbroken {text piece : Text} (found : piece ∈ text.splitOn '\n') : '\n' ∉ piece := by
  by_cases broken : '\n' ∈ text
  · obtain ⟨before, behind, whole, unbroken⟩ := List.eq_append_cons_of_mem broken
    rw [whole, splitBehind, splitUnbroken unbroken] at found
    rcases List.mem_cons.mp found with same | later
    · exact same ▸ unbroken
    · have shorter : behind.length < text.length := by
        simp [whole]
        omega
      exact piecesUnbroken later
  · rw [splitUnbroken broken] at found
    exact List.mem_singleton.mp found ▸ broken
termination_by text.length

theorem splitEnded (lines : List Text) :
    (lines.flatMap (· ++ ['\n'])).splitOn '\n' = lines.flatMap (·.splitOn '\n') ++ [[]] := by
  induction lines with
  | nil => rfl
  | cons line rest ih =>
    rw [List.flatMap_cons, List.append_assoc, List.singleton_append, splitBehind, ih,
      List.flatMap_cons, List.append_assoc]

theorem endedLines {lines : List Text} (given : lines ≠ []) :
    ∃ body, lines.flatMap (· ++ ['\n']) = body ++ ['\n'] := by
  obtain ⟨earlier, last, same⟩ := List.eq_nil_or_concat lines |>.resolve_left given
  exact ⟨earlier.flatMap (· ++ ['\n']) ++ last, by simp [same]⟩

theorem splitLines {lines : List Text} {body : Text}
    (ended : lines.flatMap (· ++ ['\n']) = body ++ ['\n']) :
    body.splitOn '\n' = lines.flatMap (·.splitOn '\n') := by
  have whole := splitEnded lines
  rw [ended, splitBehind] at whole
  exact List.append_cancel_right whole

theorem splitLinesIff {lines : List Text} {body : Text}
    (ended : lines.flatMap (· ++ ['\n']) = body ++ ['\n']) :
    body.splitOn '\n' = lines ↔ ∀ line ∈ lines, '\n' ∉ line := by
  constructor
  · intro same line member
    exact piecesUnbroken (same.symm ▸ member)
  · intro unbroken
    have single : lines.flatMap (·.splitOn '\n') = lines.flatMap fun line => [line] :=
      List.flatMap_congr fun line member => splitUnbroken (unbroken line member)
    rw [splitLines ended, single, List.flatMap_singleton']

end Text

theorem Schema.unbrokenIff {schema : Schema} {action : Action} {script : List Text}
    (written : schema.script action = .ok script) :
    (∀ statement ∈ schema.plan action, ¬Broken statement.strings) ↔ ∀ text ∈ script, '\n' ∉ text := by
  refine mappedForall written fun {statement text} found => ?_
  obtain ⟨-, rendered⟩ := Statement.textOk.mp found
  rw [← rendered, Statement.breakRendering]

namespace Command

/-- The bytes that a script is given out as: printed, or in the file that is to have it. -/
def given (output : Option String) (outcome : Outcome) (after : Folder) :
    Except FileError ByteArray :=
  match output with
  | none => .ok outcome.stdout.toUTF8
  | some file => after.read file

theorem loadStays {folder : Folder} {path : String} :
    ((Schema.load Folder.system path).run folder).2 = folder := by
  unfold Schema.load
  rw [StateT.run_bind, Folder.systemRead, pure_bind]
  cases folder.read path with
  | error cause => rfl
  | ok bytes =>
    simp only
    cases String.fromUTF8? bytes <;> rfl

theorem generateGiven {folder after : Folder} {path : String} {action : Action}
    {output : Option String} {outcome : Outcome}
    (generated : (generate Folder.system path action output).run folder = (outcome, after))
    (accepted : outcome.exit = 0) :
    ∃ schema script, (Schema.load Folder.system path).run folder = (.ok schema, folder) ∧
      schema.script action = .ok script ∧
      given output outcome after = .ok (String.ofList (scriptText script)).toUTF8 := by
  obtain ⟨loaded, shape⟩ : ∃ loaded, (Schema.load Folder.system path).run folder =
      pure (loaded, folder) := ⟨_, Prod.ext rfl loadStays⟩
  unfold generate at generated
  rw [StateT.run_bind, shape, pure_bind] at generated
  cases loaded with
  | error error =>
    cases generated
    cases accepted
  | ok schema =>
    refine ⟨schema, ?_⟩
    cases written : schema.script action with
    | error error =>
      simp only [written] at generated
      cases generated
      cases accepted
    | ok script =>
      refine ⟨script, shape, rfl, ?_⟩
      simp only [written] at generated
      cases output with
      | none =>
        cases generated
        rfl
      | some file =>
        simp only [StateT.run_bind, Folder.systemWrite, pure_bind] at generated
        cases wrote : folder.write file (String.ofList (scriptText script)) with
        | error error =>
          rw [wrote] at generated
          cases generated
          cases accepted
        | ok filed =>
          rw [wrote] at generated
          cases generated
          exact Folder.readWritten wrote

theorem generateWrites {folder after : Folder} {path file : String} {action : Action}
    {schema : Schema} {script : List Text}
    (loaded : (Schema.load Folder.system path).run folder = (.ok schema, folder))
    (written : schema.script action = .ok script)
    (wrote : folder.write file (String.ofList (scriptText script)) = .ok after) :
    (generate Folder.system path action (some file)).run folder = ({}, after) := by
  have found : (Schema.load Folder.system path).run folder = pure (.ok schema, folder) := loaded
  unfold generate
  rw [StateT.run_bind, found, pure_bind]
  simp only [written, StateT.run_bind, Folder.systemWrite, pure_bind, wrote]
  rfl

theorem scriptLinesIff {folder after : Folder} {path : String} {action : Action}
    {output : Option String} {outcome : Outcome}
    (generated : (generate Folder.system path action output).run folder = (outcome, after))
    (accepted : outcome.exit = 0) :
    ∃ schema script, (Schema.load Folder.system path).run folder = (.ok schema, folder) ∧
      schema.script action = .ok script ∧
      given output outcome after = .ok (String.ofList (scriptText script)).toUTF8 ∧
      (scriptText script = [] ↔ script = []) ∧
      (script ≠ [] → ∃ body, scriptText script = body ++ ['\n'] ∧
        body.splitOn '\n' = script.flatMap (·.splitOn '\n') ∧
        (body.splitOn '\n' = script ↔
          ∀ statement ∈ schema.plan action, ¬Broken statement.strings)) := by
  obtain ⟨schema, script, loaded, written, bytes⟩ := generateGiven generated accepted
  refine ⟨schema, script, loaded, written, bytes, ?_, ?_⟩
  · cases script <;> simp [scriptText]
  · intro filled
    obtain ⟨body, ended⟩ := Text.endedLines filled
    refine ⟨body, ended, Text.splitLines ended, ?_⟩
    rw [Text.splitLinesIff ended, Schema.unbrokenIff written]

/-- A folded scalar is one line, whatever lines it stands on in the document. -/
theorem foldedScalarOneLine :
    let folder : Folder :=
      ⟨[(["s.yaml"], .bytes "keyspaces:\n- name: >-\n   a\n   b\n- name: c".toUTF8)]⟩
    let script := ["CREATE KEYSPACE \"a b\";".toList, "CREATE KEYSPACE c;".toList]
    let body := "CREATE KEYSPACE \"a b\";\nCREATE KEYSPACE c;".toList
    ∃ after, (generate Folder.system "s.yaml" .create (some "out.cql")).run folder = ({}, after) ∧
      after.read "out.cql" = .ok (String.ofList (body ++ ['\n'])).toUTF8 ∧
      body.splitOn '\n' = script := by
  intro folder script body
  let schema : Schema := { keyspaces := [{ name := "a b" }, { name := "c" }] }
  have loaded : (Schema.load Folder.system "s.yaml").run folder = (.ok schema, folder) := by cbv
  have written : schema.script .create = .ok script := by rfl
  have place : folder.place "out.cql" = .ok ["out.cql"] := by cbv
  have free : folder.content? ["out.cql"] = none := by rfl
  have generated := generateWrites loaded written
    (Folder.writeOk.mpr ⟨_, place, by simp [free], rfl⟩)
  have planned : schema.plan .create =
      [.createKeyspace { name := "a b" }, .createKeyspace { name := "c" }] := rfl
  have whole : scriptText script = body ++ ['\n'] := by rfl
  obtain ⟨_, _, again, same, bytes, -, lines⟩ := scriptLinesIff generated rfl
  cases loaded.symm.trans again
  cases written.symm.trans same
  rw [whole] at bytes lines
  obtain ⟨front, ended, -, split⟩ := lines (List.cons_ne_nil _ _)
  cases List.append_cancel_right ended
  refine ⟨_, generated, bytes, split.mpr ?_⟩
  simp [planned, Statement.strings, Statement.named, Statement.givenOptions, Options.strings]

/-- A line break in a name stands in the middle of a statement. -/
theorem nameBreaksLine :
    let folder : Folder := ⟨[(["s.yaml"], .bytes "keyspaces:\n- name: |\n   a\n   b".toUTF8)]⟩
    let schema : Schema := { keyspaces := [{ name := "a\nb" }] }
    let script := ["CREATE KEYSPACE \"a\nb\";".toList]
    let body := "CREATE KEYSPACE \"a\nb\";".toList
    (Schema.load Folder.system "s.yaml").run folder = (.ok schema, folder) ∧
      schema.script .create = .ok script ∧
      (generate Folder.system "s.yaml" .create none).run folder =
        ({ stdout := String.ofList (body ++ ['\n']) }, folder) ∧
      body.splitOn '\n' = ["CREATE KEYSPACE \"a".toList, "b\";".toList] ∧
      body.splitOn '\n' ≠ script := by
  intro folder schema script body
  have loaded : (Schema.load Folder.system "s.yaml").run folder = (.ok schema, folder) := by cbv
  have written : schema.script .create = .ok script := by rfl
  have pieces : body.splitOn '\n' = ["CREATE KEYSPACE \"a".toList, "b\";".toList] := by rfl
  refine ⟨loaded, written, generatePrints loaded written, pieces, ?_⟩
  rw [pieces]
  decide

end Command

end CqlSchema

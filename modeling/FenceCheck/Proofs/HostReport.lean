import FenceCheck.Proofs.HostReading
import FenceCheck.Proofs.JsonPiece
import FenceCheck.Sandbox.Run

/-!
The report of a host on its way to the outcome of a block. It comes through unless a string in it ends a
line as it is written: then the report falls into pieces that tell nothing.
-/

namespace FenceCheck

namespace HostLine

theorem ofLine_silent {line : Text}
    (silent : ∀ t, Text.strip line = .char '\x7b' :: t →
      Json.read (.char '\x7b' :: t) = .ok (.object []) ∨
        ∃ fault, Json.read (.char '\x7b' :: t) = .error fault ∧ fault.isSyntax = true) :
    ofLine line = .ok none := by
  by_cases opened : ∃ t, Text.strip line = .char '\x7b' :: t
  · obtain ⟨t, stripped⟩ := opened
    rcases silent t stripped with read | ⟨fault, read, kind⟩
    · simp only [ofLine, stripped, read]
      rfl
    · simp only [ofLine, stripped, read, kind]
      rfl
  · have other : Text.startsWith (Text.strip line) "\x7b" = false := by
      cases stripped : Text.strip line with
      | nil => rfl
      | cons c t =>
          have apart : c ≠ .char '\x7b' := by
            rintro rfl
            exact opened ⟨t, stripped⟩
          simp [Text.startsWith, Text.ofString, Text.ofChars, List.isPrefixOf_cons_cons, apart.symm]
    simp [ofLine, other]

theorem guarded_silent {t line : Text} (guarded : Json.Guarded t) (member : line ∈ Text.lines t) :
    ofLine line = .ok none := by
  refine ofLine_silent fun inner stripped => Json.read_lost ?_
  -- In the text the line may go on behind its last code point: it is a start of what follows the brace.
  obtain ⟨front, back, split⟩ := (Text.strip_infix line).trans (Text.lines_infix member)
  rw [stripped, List.append_assoc] at split
  exact guarded (inner ++ back) ⟨front, split⟩ inner (List.prefix_append inner back)

theorem opening_silent (front : List Json.Member) (name : String) {s p : Text}
    (cut : p <+: Json.scriptText s) : ofLine (Json.opening front name ++ p) = .ok none := by
  have opens : Text.opens (Json.opening front name) = true := rfl
  have closes : Text.closes (Json.opening front name) = true := by
    have same : Json.opening front name =
        .char '\x7b' :: (Json.leading front ++ Json.scriptQuoted name) ++
          [.char ':', .char '\x22'] := by
      simp [Json.opening]
    rw [same]
    exact Text.closes_append rfl
  refine ofLine_silent fun t stripped => Or.inr ?_
  rw [Text.strip_behind opens closes] at stripped
  rw [← stripped]
  exact Json.read_opening front name ((Text.stripEnd_isPrefix p).trans cut)

end HostLine

/-- What a host says of a block it ran. -/
structure HostReport where
  success : Bool
  output : Json.ScriptString
  error : Option Json.ScriptString
  timedOut : Bool

namespace HostReport

def members (report : HostReport) : List Json.Member :=
  [("success", .bool report.success), ("output", .str report.output),
   ("error", report.error.elim .null .str), ("timedOut", .bool report.timedOut)]

def line (report : HostReport) : Text := Json.scriptObject report.members

def fields (report : HostReport) : Json.Fields := report.members.map Json.Member.field

def breaks (report : HostReport) : Bool :=
  report.output.text.any Json.breaksRaw || report.error.any (·.text.any Json.breaksRaw)

theorem names_apart :
    (Text.ofString "output" ≠ "success" ∧ Text.ofString "error" ≠ "success" ∧
        Text.ofString "timedOut" ≠ "success") ∧
      (Text.ofString "error" ≠ "output" ∧ Text.ofString "timedOut" ≠ "output") ∧
        Text.ofString "timedOut" ≠ "error" := by
  decide +kernel

theorem fields_ofMembers (report : HostReport) :
    Json.Fields.ofMembers (report.members.map Json.Member.field) = report.fields := by
  obtain ⟨⟨output, error, time⟩, ⟨error', time'⟩, last⟩ := names_apart
  simp [fields, members, Json.Member.field, Json.Fields.ofMembers, Json.Fields.put, output.symm,
    error.symm, time.symm, error'.symm, time'.symm, last.symm]

theorem fields_get (report : HostReport) :
    report.fields.get? "success" = some (.bool report.success) ∧
      report.fields.get? "output" = some (.str report.output.text) ∧
      report.fields.get? "error" = some (report.error.elim .null (.str ·.text)) ∧
      report.fields.get? "timedOut" = some (.bool report.timedOut) := by
  obtain ⟨⟨output, error, time⟩, ⟨error', time'⟩, last⟩ := names_apart
  simp only [fields, members, List.map_cons, List.map_nil, Json.Member.field, Json.Fields.get?,
    List.lookup_cons, beq_self_eq_true, beq_false_of_ne output, beq_false_of_ne error,
    beq_false_of_ne time, beq_false_of_ne error', beq_false_of_ne time', beq_false_of_ne last]
  refine ⟨rfl, rfl, ?_, rfl⟩
  cases report.error <;> rfl

theorem read_line (report : HostReport) :
    Json.read report.line = .ok (.object report.fields) := by
  rw [← fields_ofMembers]
  exact Json.read_scriptObject [_, _, _] _

def beforeOutput (report : HostReport) : List Json.Member := [("success", .bool report.success)]

def afterError (report : HostReport) : List Json.Member := [("timedOut", .bool report.timedOut)]

def afterOutput (report : HostReport) : List Json.Member :=
  ("error", report.error.elim .null .str) :: report.afterError

def beforeError (report : HostReport) : List Json.Member :=
  [("success", .bool report.success), ("output", .str report.output)]

theorem line_output (report : HostReport) :
    report.line = Json.opening report.beforeOutput "output" ++
      (Json.scriptText report.output.text ++ Json.closing report.afterOutput) :=
  Json.scriptObject_string report.beforeOutput report.afterOutput "output" report.output

theorem line_error {report : HostReport} {error : Json.ScriptString}
    (failed : report.error = some error) :
    report.line = Json.opening report.beforeError "error" ++
      (Json.scriptText error.text ++ Json.closing report.afterError) := by
  rw [line, members, failed]
  exact Json.scriptObject_string report.beforeError report.afterError "error" error

theorem astray_afterError (report : HostReport) (more : Text) :
    Json.Astray (Json.closing report.afterError ++ more) := by
  have word : Json.scriptText "timedOut" = .char 't' :: Json.scriptText "imedOut" := by
    decide +kernel
  exact Json.astray_closing _ _ more word (by decide) (by decide)

theorem astray_afterOutput (report : HostReport) (more : Text) :
    Json.Astray (Json.closing report.afterOutput ++ more) := by
  have word : Json.scriptText "error" = .char 'e' :: Json.scriptText "rror" := by
    decide +kernel
  exact Json.astray_closing _ _ more word (by decide) (by decide)

theorem guarded_afterError (report : HostReport) :
    Json.Guarded (Json.closing report.afterError ++ [.char '\n']) := by
  have free (b : Bool) :
      .char '\x7b' ∉ Json.closing [("timedOut", .bool b)] ++ [.char '\n'] := by
    cases b <;> decide +kernel
  exact Json.guarded_free (free report.timedOut)

theorem guarded_afterOutput (report : HostReport) :
    Json.Guarded (Json.closing report.afterOutput ++ [.char '\n']) := by
  rw [afterOutput]
  cases report.error with
  | none =>
      have free (b : Bool) :
          .char '\x7b' ∉ Json.closing [("error", .null), ("timedOut", .bool b)] ++ [.char '\n'] := by
        cases b <;> decide +kernel
      exact Json.guarded_free (free report.timedOut)
  | some error =>
      have free : .char '\x7b' ∉ .char '\x22' :: .char ',' ::
          (Json.scriptQuoted "error" ++ [.char ':', .char '\x22']) := by decide +kernel
      rw [Option.elim_some, Json.closing_string, List.append_assoc, List.append_assoc]
      exact Json.guarded_append free (Json.guarded_scriptText _ (report.astray_afterError _)
        report.guarded_afterError)

theorem whole_beforeOutput (report : HostReport) :
    Text.Whole (Json.opening report.beforeOutput "output") := by
  have whole (b : Bool) : Text.Whole (Json.opening [("success", .bool b)] "output") := by
    cases b <;> decide +kernel
  exact whole report.success

theorem whole_beforeError {report : HostReport}
    (calm : report.output.text.any Json.breaksRaw = false) :
    Text.Whole (Json.opening report.beforeError "error") := by
  have split : Json.opening report.beforeError "error" =
      Json.opening report.beforeOutput "output" ++ (Json.scriptText report.output.text ++
        (.char '\x22' :: .char ',' :: (Json.scriptQuoted "error" ++ [.char ':', .char '\x22']))) := by
    simp [Json.opening, beforeError, beforeOutput, Json.leading, Json.Member.written,
      Json.Scalar.written, Json.scriptQuoted]
  rw [split]
  exact Text.whole_append.mpr ⟨report.whole_beforeOutput,
    Text.whole_append.mpr ⟨Json.whole_scriptText calm, by decide +kernel⟩⟩

theorem whole_afterError (report : HostReport) : Text.Whole (Json.closing report.afterError) := by
  have whole (b : Bool) : Text.Whole (Json.closing [("timedOut", .bool b)]) := by
    cases b <;> decide +kernel
  exact whole report.timedOut

theorem whole_line {report : HostReport} (calm : report.breaks = false) :
    Text.Whole report.line := by
  obtain ⟨output, error⟩ := Bool.or_eq_false_iff.mp calm
  cases failed : report.error with
  | some message =>
      rw [failed] at error
      rw [line_error failed]
      exact Text.whole_append.mpr ⟨whole_beforeError output,
        Text.whole_append.mpr ⟨Json.whole_scriptText error, report.whole_afterError⟩⟩
  | none =>
      have whole (b : Bool) :
          Text.Whole (Json.closing [("error", .null), ("timedOut", .bool b)]) := by
        cases b <;> decide +kernel
      rw [line_output, afterOutput, failed]
      exact Text.whole_append.mpr ⟨report.whole_beforeOutput,
        Text.whole_append.mpr ⟨Json.whole_scriptText output, whole report.timedOut⟩⟩

theorem ofLine_line (report : HostReport) :
    HostLine.ofLine report.line = .ok (some report.fields) := by
  have stripped : Text.strip report.line = report.line := by
    have closes : Text.closes report.line = true := Text.closes_append rfl
    have behind := Text.strip_behind rfl closes []
    rw [List.append_nil] at behind
    exact behind.trans (List.append_nil report.line)
  refine HostLine.ofLine_some.mpr ⟨by rw [stripped, read_line], ?_⟩
  rw [report.fields_get.1]
  rfl

theorem pieces_silent {front : List Json.Member} {name : String} {s after : Text}
    (breaks : s.any Json.breaksRaw = true) (whole : Text.Whole (Json.opening front name))
    (guarded : Json.Guarded after) (astray : Json.Astray after) {piece : Text}
    (among : piece ∈ Text.lines (Json.opening front name ++ (Json.scriptText s ++ after))) :
    HostLine.ofLine piece = .ok none := by
  obtain ⟨start, stop, rest, split, calm, raw⟩ := Json.scriptText_breaks breaks
  obtain ⟨ends, apart⟩ := Json.breaksRaw_ends raw
  have cut : Json.opening front name ++ (Json.scriptText s ++ after) =
      Json.opening front name ++ start ++ stop :: (rest ++ after) := by
    simp [split]
  rw [cut, Text.lines_break (Text.whole_append.mpr ⟨whole, calm⟩) ends apart] at among
  rcases List.mem_cons.mp among with rfl | later
  · exact HostLine.opening_silent front name ⟨stop :: rest, split.symm⟩
  · refine HostLine.guarded_silent ((Json.guarded_scriptText s astray guarded).suffix ?_) later
    refine ⟨start ++ [stop], ?_⟩
    simp [split]

theorem lines_silent {report : HostReport} (breaks : report.breaks = true) :
    ∀ piece ∈ Text.lines (report.line ++ [.char '\n']), HostLine.ofLine piece = .ok none := by
  intro piece among
  -- The report is cut in the first string that breaks: in the error only if the output is on one line.
  cases output : report.output.text.any Json.breaksRaw with
  | true =>
      rw [line_output, List.append_assoc, List.append_assoc] at among
      exact pieces_silent output report.whole_beforeOutput report.guarded_afterOutput
        (report.astray_afterOutput _) among
  | false =>
      rw [HostReport.breaks, output, Bool.false_or] at breaks
      obtain ⟨error, failed, broken⟩ := (Option.any_eq_true _ _).mp breaks
      rw [line_error failed, List.append_assoc, List.append_assoc] at among
      exact pieces_silent broken (whole_beforeError output) report.guarded_afterError
        (report.astray_afterError _) among

theorem ofOutput_line (report : HostReport) {earlier : Text} (ended : Text.Ended earlier) :
    HostLine.ofOutput (earlier ++ report.line ++ [.char '\n']) =
      if report.breaks then HostLine.ofOutput earlier else .ok (some report.fields) := by
  rw [HostLine.ofOutput, List.append_assoc, Text.lines_append ended, List.reverse_append]
  -- Lines are tried from the last one, so what the report has become is tried before the earlier lines.
  cases breaks : report.breaks with
  | true =>
      rw [if_pos rfl]
      exact HostLine.firstOf_silent _ fun piece among =>
        lines_silent breaks piece (List.mem_reverse.mp among)
  | false =>
      rw [if_neg (by simp), Text.lines_break (whole_line breaks) (by decide) (by decide)]
      change HostLine.firstOf (report.line :: _) = _
      rw [HostLine.firstOf, report.ofLine_line]

theorem textField_str {fields : Json.Fields} {name : String} {s : Text}
    (found : fields.get? name = some (.str s)) : Sandbox.textField fields name = s := by
  rw [Sandbox.textField, found]
  cases s with
  | nil => rfl
  | cons c s => rfl

def outcome (report : HostReport) (machine : Machine) (block : Block) : Outcome :=
  if report.success then .pass block report.output.text machine.elapsed
  else
    .fail block
      (Sandbox.orElse (Diagnostic.clean (report.error.elim [] (·.text))) "Unknown error")
      machine.elapsed report.timedOut

theorem ofReport_fields (report : HostReport) (machine : Machine) (block : Block) :
    Sandbox.ofReport machine block report.fields = report.outcome machine block := by
  obtain ⟨success, output, error, timedOut⟩ := report.fields_get
  rw [Sandbox.ofReport, outcome, success]
  cases report.success with
  | true =>
      rw [textField_str output]
      rfl
  | false =>
      have message : Sandbox.textField report.fields "error" = report.error.elim [] (·.text) := by
        cases failed : report.error with
        | none =>
            rw [failed] at error
            rw [Sandbox.textField, error]
            rfl
        | some s =>
            rw [failed] at error
            exact textField_str error
      rw [message, timedOut]
      rfl

/-- A report comes through to its reading and to the outcome of the block, whatever was printed before
it, if none of its strings ends a line; otherwise it is as if it had not been written. -/
theorem comes_through (report : HostReport) {earlier : Text} (ended : Text.Ended earlier) :
    HostLine.ofOutput (earlier ++ report.line ++ [.char '\n']) =
        (if report.breaks then HostLine.ofOutput earlier else .ok (some report.fields)) ∧
      ∀ machine config block code errors,
        Sandbox.ofFinished machine config block
            ⟨code, earlier ++ report.line ++ [.char '\n'], errors, false⟩ =
          if report.breaks then
            Sandbox.ofFinished machine config block ⟨code, earlier, errors, false⟩
          else .ok (report.outcome machine block) := by
  refine ⟨report.ofOutput_line ended, fun machine config block code errors => ?_⟩
  rw [Sandbox.ofFinished, if_neg (by simp), report.ofOutput_line ended]
  cases report.breaks with
  | true => rfl
  | false => exact congrArg Except.ok (report.ofReport_fields machine block)

def shortReport : HostReport :=
  ⟨true, ⟨"ok", Json.unpaired_ofChars _⟩, none, false⟩

theorem shortReport_whole : shortReport.breaks = false := by decide +kernel

theorem ready_ended : Text.Ended "ready\n" := fun _ => by decide +kernel

theorem comes_through_ready :
    Text.Ended "ready\n" ∧ shortReport.breaks = false ∧
      HostLine.ofOutput (Text.ofString "ready\n" ++ shortReport.line ++ [.char '\n']) =
        .ok (some shortReport.fields) ∧
      ∀ machine config block code errors,
        Sandbox.ofFinished machine config block
            ⟨code, Text.ofString "ready\n" ++ shortReport.line ++ [.char '\n'], errors, false⟩ =
          .ok (.pass block "ok" machine.elapsed) := by
  have through := comes_through shortReport ready_ended
  rw [shortReport_whole] at through
  exact ⟨ready_ended, shortReport_whole, through⟩

def separatedReport : HostReport :=
  ⟨true, ⟨"a\u2028b", Json.unpaired_ofChars _⟩, none, false⟩

/-- The block has failed, although its host says that it succeeded. -/
theorem separatedReport_lost :
    separatedReport.line =
        Text.ofString "\x7b\x22success\x22:true,\x22output\x22:\x22a\u2028b\x22,\x22error\x22:null,\x22timedOut\x22:false\x7d" ∧
      HostLine.ofOutput (separatedReport.line ++ [.char '\n']) = .ok none ∧
      ∀ machine config block,
        Sandbox.ofFinished machine config block
            ⟨0, separatedReport.line ++ [.char '\n'], [], false⟩ =
          .ok (.fail block "node exited with code 0" machine.elapsed false) := by
  have lost : HostLine.ofOutput (separatedReport.line ++ [.char '\n']) = .ok none := by
    have broken : separatedReport.breaks = true := by decide +kernel
    have nothing : Text.Ended [] := fun some => absurd rfl some
    have read := ofOutput_line separatedReport nothing
    rwa [broken] at read
  refine ⟨by decide +kernel, lost, fun machine config block => ?_⟩
  have message : Sandbox.orElse (Diagnostic.clean []) (Text.ofString "node exited with code " ++
      Text.ofInt 0) = Text.ofString "node exited with code 0" := by
    decide +kernel
  rw [Sandbox.ofFinished, if_neg (by simp), lost]
  exact congrArg (fun text => Except.ok (Outcome.fail block text machine.elapsed false)) message

end HostReport

end FenceCheck

import BuildWatch.Proofs.Compiler.Outcome

/-!
What is reported about a response: its findings in the order of a build log, an error about missing
code after them if there is no other, and a line of the log for each.
-/

namespace BuildWatch

/-- What becomes of a finding as it was sent. -/
structure Finding.Becomes (finding : Finding) (diagnostic : Diagnostic) : Prop where
  file : diagnostic.file = finding.file
  line : diagnostic.line = finding.line
  column : diagnostic.column = finding.column
  message : diagnostic.message = finding.message
  warning : diagnostic.severity = .warning ↔ finding.severity = 1
  notice : diagnostic.severity = .notice ↔ finding.severity = 2
  error : diagnostic.severity = .error ↔ finding.severity ≠ 1 ∧ finding.severity ≠ 2

theorem Finding.becomes_toDiagnostic (finding : Finding) :
    finding.Becomes finding.toDiagnostic where
  file := rfl
  line := rfl
  column := rfl
  message := rfl
  warning := by grind [toDiagnostic, Severity.ofNumber]
  notice := by grind [toDiagnostic, Severity.ofNumber]
  error := by grind [toDiagnostic, Severity.ofNumber]

namespace Diagnostic

/-- The line of a build log that a diagnostic gets, shown even if none for debugging is. -/
structure LoggedAs (diagnostic : Diagnostic) (entry : LogEntry) : Prop where
  channel : diagnostic.severity.Named entry.channel
  message : diagnostic.ReadAs entry.message
  shown : entry.forDebug = false

theorem loggedAs_logEntry (diagnostic : Diagnostic) : diagnostic.LoggedAs diagnostic.logEntry where
  channel := by
    rw [logEntry, LogEntry.info]
    cases diagnostic.severity with
    | error => exact .error
    | warning => exact .warning
    | notice => exact .notice
  message := diagnostic.readAs_display
  shown := rfl

end Diagnostic

namespace Response

/-- What is made of a response. Its findings, each as `Finding.Becomes` says, have one list in log
order; that list, the code and the severities as they were sent settle what is reported, whether the
response is a success, and what is logged. -/
theorem finish_reports (response : Response) :
    ∃ given sorted diagnostics,
      List.Forall₂ Finding.Becomes response.findings given ∧
      (∀ list, InLogOrder given list ↔ list = sorted) ∧
      (diagnostics = sorted ++
        if response.code.size = 0 ∧ response.findings.all Finding.isHarmless = true then
          [⟨.error, "", 0, 0, "Empty script output."⟩]
        else []) ∧
      response.finish =
        (if 0 < response.code.size ∧ response.findings.all Finding.isHarmless = true then
          .ok ⟨⟨response.code,
            if response.sourceMap.size = 0 then none else some response.sourceMap⟩, diagnostics⟩
        else .error diagnostics) ∧
      List.Forall₂ Diagnostic.LoggedAs diagnostics response.log := by
  refine ⟨response.findings.map Finding.toDiagnostic, response.sortedDiagnostics,
    response.reported, ?_, fun list => (InLogOrder.mergeSort _).eq_iff,
    response.reported_eq_append, ?_, ?_⟩
  · exact List.forall₂_map_right_iff.mpr
      (List.forall₂_same.mpr fun finding _ => finding.becomes_toDiagnostic)
  · rw [finish, artifact, ByteArray.isEmpty]
    simp only [any_isError_reported, ite_not, beq_iff_eq]
  · exact List.forall₂_map_right_iff.mpr
      (List.forall₂_same.mpr fun diagnostic _ => diagnostic.loggedAs_logEntry)

end Response

end BuildWatch

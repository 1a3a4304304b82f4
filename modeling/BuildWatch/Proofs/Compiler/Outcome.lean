import BuildWatch.Compiler.Outcome
import BuildWatch.Proofs.Diagnostic

/-!
What a response amounts to: code without errors, with its diagnostics in location order, or
diagnostics with an error among them.
-/

namespace BuildWatch

/-- Was a finding sent as a warning or a notice? Any other number is that of an error. -/
def Finding.isHarmless (finding : Finding) : Bool :=
  finding.severity = 1 ∨ finding.severity = 2

theorem Finding.isError_toDiagnostic (finding : Finding) :
    finding.toDiagnostic.isError = !finding.isHarmless := by
  simp only [toDiagnostic, Diagnostic.isError, Severity.ofNumber, isHarmless]
  split_ifs with warning notice
  · simp [warning]
  · simp [notice]
  · simp [warning, notice]

namespace Response

variable {response : Response}

theorem sortedDiagnostics_sorted (response : Response) :
    response.sortedDiagnostics.Pairwise fun left right => left.standsBy right = true :=
  List.pairwise_mergeSort Diagnostic.standsBy_trans Diagnostic.standsBy_total _

theorem any_isError_sortedDiagnostics (response : Response) :
    response.sortedDiagnostics.any Diagnostic.isError =
      !response.findings.all Finding.isHarmless := by
  rw [sortedDiagnostics, (List.mergeSort_perm _ _).any_eq, List.any_map, List.not_all_eq_any_not]
  exact congrArg _ (funext Finding.isError_toDiagnostic)

theorem reported_eq_append (response : Response) :
    response.reported = response.sortedDiagnostics ++
      if response.code.size = 0 ∧ response.findings.all Finding.isHarmless = true then
        [.plainError emptyOutputMessage]
      else [] := by
  rw [reported, any_isError_sortedDiagnostics, Bool.not_not, ByteArray.isEmpty]
  split_ifs <;> simp_all

theorem any_isError_reported :
    response.reported.any Diagnostic.isError = true ↔
      ¬(0 < response.code.size ∧ response.findings.all Finding.isHarmless = true) := by
  rw [reported_eq_append, List.any_append, any_isError_sortedDiagnostics, Nat.pos_iff_ne_zero]
  cases response.findings.all Finding.isHarmless <;> by_cases missing : response.code.size = 0 <;>
    simp [missing, Diagnostic.plainError, Diagnostic.isError]

theorem reported_eq (harmless : response.reported.any Diagnostic.isError = false) :
    response.reported = response.sortedDiagnostics ∧ 0 < response.code.size := by
  have succeeds : 0 < response.code.size ∧ response.findings.all Finding.isHarmless = true := by
    by_contra fails
    exact absurd (any_isError_reported.mpr fails) (by simp [harmless])
  rw [reported_eq_append, if_neg fun missing => succeeds.1.ne' missing.1, List.append_nil]
  exact ⟨rfl, succeeds.1⟩

theorem finish_ok {compiled : Compiled} (finished : response.finish = .ok compiled) :
    0 < compiled.artifact.code.size ∧
      (∀ diagnostic ∈ compiled.diagnostics, diagnostic.isError = false) ∧
      compiled.diagnostics.Pairwise fun left right => left.standsBy right = true := by
  unfold finish at finished
  split at finished
  · simp at finished
  · rename_i harmless
    rw [Bool.not_eq_true] at harmless
    obtain rfl := Except.ok.inj finished
    obtain ⟨same, filled⟩ := reported_eq harmless
    refine ⟨filled, ?_, ?_⟩
    · simpa using harmless
    · rw [same]
      exact response.sortedDiagnostics_sorted

theorem finish_error {diagnostics : List Diagnostic}
    (finished : response.finish = .error diagnostics) :
    ∃ diagnostic ∈ diagnostics, diagnostic.isError = true := by
  unfold finish at finished
  split at finished
  · rename_i failed
    obtain rfl := Except.error.inj finished
    exact List.any_eq_true.mp failed
  · simp at finished

end Response

end BuildWatch

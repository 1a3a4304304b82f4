import BuildWatch.Proofs.Path
import BuildWatch.Proofs.Text.Utf8
import BuildWatch.SafeName

/-!
The names of sources. Each is a run of letters, digits and separators that starts with a letter or
a digit and ends in `.js`, so it is a name of a file whatever directory it stands in.
-/

namespace BuildWatch.SafeName

theorem chars_of_joined {chars : List Char} {opening : Bool}
    (joined : isJoined opening chars = true) :
    ∀ char ∈ chars, isWord char = true ∨ isSeparator char = true := by
  induction chars generalizing opening with
  | nil => simp
  | cons first rest ih =>
      rw [isJoined] at joined
      split at joined
      · rename_i word
        exact List.forall_mem_cons.mpr ⟨.inl word, ih joined⟩
      · simp only [Bool.and_eq_true] at joined
        exact List.forall_mem_cons.mpr ⟨.inr joined.1.1, ih joined.2⟩

theorem stem?_eq_some_iff {chars stem : List Char} :
    stem? chars = some stem ↔ chars = stem ++ scriptEnding := by
  rw [stem?]
  split_ifs with ends
  · obtain ⟨front, rfl⟩ := List.isSuffixOf_iff_suffix.mp ends
    simp
  · refine iff_of_false (by simp) ?_
    rintro rfl
    exact ends (List.isSuffixOf_iff_suffix.mpr (List.suffix_append ..))

theorem stem_of_source {name : String} (source : isSource name = true) :
    ∃ stem, isJoined true stem = true ∧ name.toList = stem ++ scriptEnding := by
  unfold isSource at source
  split at source
  · rename_i stem cut
    rw [Bool.and_eq_true] at source
    exact ⟨stem, source.1, stem?_eq_some_iff.mp cut⟩
  · simp at source

theorem isJoined_append_ending {stem : List Char} {opening : Bool} :
    isJoined opening (stem ++ scriptEnding) = isJoined opening stem := by
  induction stem generalizing opening with
  | nil => cases opening <;> decide
  | cons char rest ih => simp only [List.cons_append, isJoined, ih]

theorem isSource_iff {name : String} :
    isSource name = true ↔
      isSafe name = true ∧ scriptEnding <:+ name.toList ∧ ¬testEnding <:+ name.toList := by
  rw [isSource, isSafe]
  cases found : stem? name.toList with
  | none =>
      refine iff_of_false (by simp) ?_
      rintro ⟨-, ⟨stem, whole⟩, -⟩
      rw [stem?_eq_some_iff.mpr whole.symm] at found
      simp at found
  | some stem =>
      have whole := stem?_eq_some_iff.mp found
      have ends : scriptEnding <:+ name.toList := ⟨stem, whole.symm⟩
      have same : isJoined true name.toList = isJoined true stem := by
        rw [whole, isJoined_append_ending]
      simp only [same, ends, true_and, Bool.and_eq_true, Bool.not_eq_true',
        ← List.isSuffixOf_iff_suffix, Bool.not_eq_true]

theorem source_eq {name : String} (source : isSource name = true) :
    ∃ first stem, isWord first = true ∧ name.toList = first :: stem ++ scriptEnding := by
  obtain ⟨stem, joined, whole⟩ := stem_of_source source
  cases stem with
  | nil => simp [isJoined] at joined
  | cons first rest =>
      refine ⟨first, rest, ?_, whole⟩
      by_contra other
      simp [isJoined, other] at joined

theorem chars_of_source {name : String} (source : isSource name = true) :
    ∀ char ∈ name.toList, isWord char = true ∨ isSeparator char = true :=
  chars_of_joined (isSource_iff.mp source).1

theorem isPlain_of_source {name : String} (source : isSource name = true) :
    Path.IsPlain (Utf8.bytes name) := by
  have other (text : String) (refused : isSource text = false) :
      Utf8.bytes name ≠ Utf8.bytes text := by
    rw [ne_eq, Utf8.bytes_inj]
    rintro rfl
    simp [refused] at source
  constructor
  · intro among
    have char : '/' ∈ name.toList := Utf8.mem_of_mem_bytes (by decide) among
    exact absurd (chars_of_source source _ char) (by decide)
  · have some : Utf8.bytes name ≠ [] := other "" (by decide)
    have notCurrent : Utf8.bytes name ≠ [Path.dot] := other "." (by decide)
    have notParent : Utf8.bytes name ≠ [Path.dot, Path.dot] := other ".." (by decide)
    simp [Path.componentOf, some, notCurrent, notParent]

end BuildWatch.SafeName

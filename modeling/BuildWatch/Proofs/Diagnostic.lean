import BuildWatch.Diagnostic
import BuildWatch.Proofs.Text.Utf8
import Mathlib

/-!
Findings as a reader meets them: the order of a build log, said in bytes and numbers, and their
texts. Findings are put in order without loss and those at one place stay as they came, which leaves
one list only.
-/

namespace BuildWatch

inductive Severity.Named : Severity → String → Prop
  | error : Named .error "error"
  | warning : Named .warning "warning"
  | notice : Named .notice "notice"

namespace Diagnostic

/-- The text of a diagnostic, with as much of its place as is known. -/
inductive ReadAs (diagnostic : Diagnostic) : String → Prop
  | anywhere (unknown : diagnostic.file = "") : ReadAs diagnostic diagnostic.message
  | inFile (known : diagnostic.file ≠ "") (unknown : diagnostic.line = 0) :
    ReadAs diagnostic (diagnostic.file ++ ": " ++ diagnostic.message)
  | atPlace (known : diagnostic.file ≠ "") (placed : diagnostic.line ≠ 0) :
    ReadAs diagnostic (diagnostic.file ++ ":" ++ toString diagnostic.line ++ ":" ++
      toString diagnostic.column ++ ": " ++ diagnostic.message)

theorem readAs_display (diagnostic : Diagnostic) : diagnostic.ReadAs diagnostic.display := by
  rw [display]
  split_ifs with anywhere inFile
  · exact .anywhere anywhere
  · exact .inFile anywhere inFile
  · exact .atPlace anywhere inFile

instance : Std.TransCmp locationOrder :=
  inferInstanceAs (Std.TransCmp
    (compareLex (compareOn file) (compareLex (compareOn line) (compareOn column))))

theorem standsBy_iff {left right : Diagnostic} :
    left.standsBy right = true ↔ (left.locationOrder right).isLE = true := by
  unfold standsBy
  cases left.locationOrder right <;> decide

theorem standsBy_trans (first second third : Diagnostic) (left : first.standsBy second = true)
    (right : second.standsBy third = true) : first.standsBy third = true := by
  rw [standsBy_iff] at left right ⊢
  exact Std.TransCmp.isLE_trans left right

theorem standsBy_total (left right : Diagnostic) :
    (left.standsBy right || right.standsBy left) = true := by
  have swapped : right.locationOrder left = (left.locationOrder right).swap :=
    Std.OrientedCmp.eq_swap
  rw [Bool.or_eq_true, standsBy_iff, standsBy_iff, swapped]
  cases left.locationOrder right <;> decide

/-- The file of `left` comes first in the order of bytes, or else its line, or else its column; or
both are at one place. -/
def Precedes (left right : Diagnostic) : Prop :=
  Utf8.bytes left.file < Utf8.bytes right.file ∨
    left.file = right.file ∧
      (left.line < right.line ∨ left.line = right.line ∧ left.column ≤ right.column)

def sharesPlace (left right : Diagnostic) : Bool :=
  left.file = right.file ∧ left.line = right.line ∧ left.column = right.column

theorem standsBy_iff_precedes {left right : Diagnostic} :
    left.standsBy right = true ↔ left.Precedes right := by
  rw [standsBy_iff, locationOrder, Ordering.isLE_then_iff_or, Ordering.isLE_then_iff_or,
    compare_lt_iff_lt, Std.compare_eq_lt, compare_eq_iff_eq, Std.compare_eq_iff_eq,
    Std.isLE_compare, Precedes, Utf8.bytes_lt_iff]

theorem sharesPlace_iff {left right : Diagnostic} :
    left.sharesPlace right = true ↔ left.Precedes right ∧ right.Precedes left := by
  rw [sharesPlace, decide_eq_true_eq, Precedes, Precedes, Utf8.bytes_lt_iff, Utf8.bytes_lt_iff]
  constructor
  · rintro ⟨file, line, column⟩
    simp [file, line, column]
  · rintro ⟨forth, back⟩
    grind

theorem Precedes.refl (diagnostic : Diagnostic) : diagnostic.Precedes diagnostic :=
  .inr ⟨rfl, .inr ⟨rfl, UInt32.le_refl _⟩⟩

theorem Precedes.trans {first second third : Diagnostic} (left : first.Precedes second)
    (right : second.Precedes third) : first.Precedes third := by
  rw [← standsBy_iff_precedes] at left right ⊢
  exact standsBy_trans _ _ _ left right

end Diagnostic

/-- `sorted` is what a build log makes of the findings `given`. -/
structure InLogOrder (given sorted : List Diagnostic) : Prop where
  kept : sorted.Perm given
  ordered : sorted.Pairwise Diagnostic.Precedes
  stable (spot : Diagnostic) : sorted.filter spot.sharesPlace = given.filter spot.sharesPlace

namespace InLogOrder

variable {given left right : List Diagnostic}

theorem mergeSort (given : List Diagnostic) :
    InLogOrder given (given.mergeSort Diagnostic.standsBy) where
  kept := List.mergeSort_perm given _
  ordered :=
    (List.pairwise_mergeSort Diagnostic.standsBy_trans Diagnostic.standsBy_total given).imp
      Diagnostic.standsBy_iff_precedes.mp
  stable spot := by
    have together : (given.filter spot.sharesPlace).Pairwise fun first second =>
        first.standsBy second = true := by
      refine List.pairwise_of_forall_mem_list fun first one second other => ?_
      have one := (List.mem_filter.mp one).2
      have other := (List.mem_filter.mp other).2
      rw [Diagnostic.standsBy_iff_precedes]
      exact (Diagnostic.sharesPlace_iff.mp one).2.trans (Diagnostic.sharesPlace_iff.mp other).1
    have within := (List.sublist_mergeSort Diagnostic.standsBy_trans Diagnostic.standsBy_total
      together List.filter_sublist).filter spot.sharesPlace
    simp only [List.filter_filter, Bool.and_self] at within
    exact (within.eq_of_length ((List.mergeSort_perm given _).filter _).length_eq.symm).symm

theorem eq_of_ordered (kept : left.Perm right) (low : left.Pairwise Diagnostic.Precedes)
    (high : right.Pairwise Diagnostic.Precedes)
    (same : ∀ spot : Diagnostic, left.filter spot.sharesPlace = right.filter spot.sharesPlace) :
    left = right := by
  induction left generalizing right with
  | nil => exact kept.nil_eq
  | cons first rest ih =>
    cases right with
    | nil => exact absurd kept.eq_nil (List.cons_ne_nil _ _)
    | cons second others =>
      have forth : first.Precedes second := by
        rcases List.mem_cons.mp (kept.mem_iff.mpr List.mem_cons_self) with rfl | later
        · exact .refl _
        · exact List.rel_of_pairwise_cons low later
      have back : second.Precedes first := by
        rcases List.mem_cons.mp (kept.mem_iff.mp List.mem_cons_self) with rfl | later
        · exact .refl _
        · exact List.rel_of_pairwise_cons high later
      -- The heads are at one place, where the lists agree.
      have heads := same first
      rw [List.filter_cons_of_pos (Diagnostic.sharesPlace_iff.mpr ⟨.refl _, .refl _⟩),
        List.filter_cons_of_pos (Diagnostic.sharesPlace_iff.mpr ⟨forth, back⟩)] at heads
      obtain rfl := (List.cons.inj heads).1
      refine congrArg _ (ih kept.cons_inv low.of_cons high.of_cons fun spot => ?_)
      have spots := same spot
      rw [List.filter_cons, List.filter_cons] at spots
      split at spots
      · exact (List.cons.inj spots).2
      · exact spots

theorem eq_iff (sorted : InLogOrder given left) : InLogOrder given right ↔ right = left := by
  constructor
  · intro other
    exact eq_of_ordered (other.kept.trans sorted.kept.symm) other.ordered sorted.ordered
      fun spot => (other.stable spot).trans (sorted.stable spot).symm
  · rintro rfl
    exact sorted

end InLogOrder

end BuildWatch

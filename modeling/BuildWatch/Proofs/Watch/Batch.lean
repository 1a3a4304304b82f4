import BuildWatch.Coordinator.Dispatch
import BuildWatch.Proofs.Watch.Classifier

/-!
What a batch of notices amounts to. Nothing counts but which paths are said to have changed: not how
often or in which order, nor how a stream of notices is cut into batches. The kinds of changes are a
set, and they are passed on in the one order that all kinds of changes have.
-/

namespace BuildWatch

namespace Change

theorem rank_injective : Function.Injective rank := by
  intro left right same
  cases left <;> cases right <;> simp [rank] at same ⊢

def Increasing (changes : List Change) : Prop :=
  changes.Pairwise fun left right => left.rank < right.rank

variable {changes others : List Change}

theorem Increasing.nodup (increasing : Increasing changes) : changes.Nodup :=
  List.Pairwise.imp (fun below same => absurd (same ▸ below) (lt_irrefl _)) increasing

theorem Increasing.eq_of_mem_iff (increasing : Increasing changes) (also : Increasing others)
    (same : ∀ change, change ∈ changes ↔ change ∈ others) : changes = others := by
  have perm : changes.Perm others :=
    (List.perm_ext_iff_of_nodup increasing.nodup also.nodup).mpr same
  refine perm.eq_of_pairwise ?_ increasing also
  intro left right _ _ below above
  exact absurd below (lt_asymm above)

theorem sorted_perm (changes : List Change) : (sorted changes).Perm changes :=
  List.mergeSort_perm ..

theorem sorted_increasing (distinct : changes.Nodup) : Increasing (sorted changes) := by
  have ordered := List.pairwise_mergeSort' (Order.Preimage rank (· ≤ ·)) changes
  have once : (sorted changes).Nodup := (sorted_perm changes).nodup_iff.mpr distinct
  refine (ordered.and once).imp ?_
  rintro left right ⟨atMost, other⟩
  exact lt_of_le_of_ne atMost (rank_injective.ne other)

end Change

namespace Classifier

variable {classifier : Classifier} {notices others : List Notice} {change : Change}

theorem collect_increasing (classifier : Classifier) (notices : List Notice) :
    Change.Increasing (classifier.collect notices) := by
  have all : Change.Increasing Change.all := by simp [Change.Increasing, Change.all, Change.rank]
  exact List.Pairwise.sublist List.filter_sublist all

theorem mem_collect_iff : change ∈ classifier.collect notices ↔
    ∃ path ∈ Dispatch.changedPaths notices, classifier.classify path = some change := by
  simp only [mem_collect, affects_iff, Dispatch.changedPaths, List.mem_flatMap, List.mem_filter]
  constructor
  · rintro ⟨notice, member, changed, path, among, classified⟩
    exact ⟨path, ⟨notice, ⟨member, changed⟩, among⟩, classified⟩
  · rintro ⟨path, ⟨notice, ⟨member, changed⟩, among⟩, classified⟩
    exact ⟨notice, member, changed, path, among, classified⟩

theorem sorted_eq_collect {found : List Change} (distinct : found.Nodup)
    (same : ∀ change, change ∈ found ↔ change ∈ classifier.collect notices) :
    Change.sorted found = classifier.collect notices :=
  (Change.sorted_increasing distinct).eq_of_mem_iff (classifier.collect_increasing notices)
    fun change => (Change.sorted_perm found).mem_iff.trans (same change)

theorem collect_congr (same : ∀ path,
    path ∈ Dispatch.changedPaths others ↔ path ∈ Dispatch.changedPaths notices) :
    classifier.collect others = classifier.collect notices := by
  apply (classifier.collect_increasing others).eq_of_mem_iff (classifier.collect_increasing notices)
  intro change
  simp only [mem_collect_iff, same]

theorem collect_append (classifier : Classifier) (notices others : List Notice) :
    classifier.collect (notices ++ others) =
      Change.sorted (classifier.collect notices ∪ classifier.collect others) := by
  refine (sorted_eq_collect ?_ fun change => ?_).symm
  · exact (classifier.collect_increasing others).nodup.union _
  · rw [List.mem_union_iff, mem_collect, mem_collect, mem_collect]
    simp only [List.mem_append, or_and_right, exists_or]

end Classifier

variable {isOpen : Receiver → Bool}

theorem route_delivered (isOpen : Receiver → Bool) (changes : List Change) :
    (route isOpen changes).delivered = changes.takeWhile fun change => isOpen change.receiver := by
  induction changes with
  | nil => rfl
  | cons change rest ih =>
      rw [route, List.takeWhile_cons, ← ih]
      cases isOpen change.receiver <;> rfl

theorem route_isComplete (isOpen : Receiver → Bool) (changes : List Change) :
    (route isOpen changes).isComplete = changes.all fun change => isOpen change.receiver := by
  induction changes with
  | nil => rfl
  | cons change rest ih =>
      rw [route, List.all_cons, ← ih]
      cases isOpen change.receiver <;> rfl

end BuildWatch

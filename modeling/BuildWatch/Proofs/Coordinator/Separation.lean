import BuildWatch.Proofs.Coordinator.Dispatch

/-!
The watcher without what concerns one of the two receivers. If the paths that concern it are left
out of all notices, the watcher takes the same steps without those for them, and the queue of the
other receiver fills in the same way.
-/

namespace BuildWatch

namespace Classifier

variable {classifier : Classifier}

theorem classify_music_iff (classifier : Classifier) (sourceDir : Option Path) (path : Path) :
    ({ classifier with sourceDir } : Classifier).classify path = some .music ↔
      classifier.classify path = some .music := by
  simp only [classify]
  split
  · rfl
  split
  · rfl
  split
  · split
    · rfl
    · split <;> split <;> simp
  · rfl

theorem receiver_of_classify {sourceDir : Option Path} {path : Path} {change : Change}
    (classified : ({ classifier with sourceDir } : Classifier).classify path = some change) :
    change.receiver = .music ↔ classifier.classify path = some .music := by
  rw [← classifier.classify_music_iff sourceDir, classified]
  cases change <;> simp [Change.receiver]

/-- A choice of paths that has all those that concern a receiver, whatever the source directory is,
and none that concern the other one. -/
def Separates (classifier : Classifier) (receiver : Receiver) (keep : Path → Bool) : Prop :=
  ∀ sourceDir path change,
    ({ classifier with sourceDir } : Classifier).classify path = some change →
      (keep path = true ↔ change.receiver = receiver)

theorem separates_of_exact {receiver : Receiver} {keep : Path → Bool}
    (exact : ∀ path, keep path = false ↔ ∃ sourceDir change,
      ({ classifier with sourceDir } : Classifier).classify path = some change ∧
        change.receiver ≠ receiver) :
    classifier.Separates receiver keep := by
  intro sourceDir path change classified
  constructor
  · intro kept
    by_contra other
    have left_out := (exact path).mpr ⟨sourceDir, change, classified, other⟩
    simp [kept] at left_out
  · intro own
    by_contra left_out
    obtain ⟨place, rival, elsewhere, other⟩ := (exact path).mp (eq_false_of_ne_true left_out)
    -- a path concerns the same receiver wherever the sources are
    have same : change.receiver = .music ↔ rival.receiver = .music :=
      (receiver_of_classify classified).trans (receiver_of_classify elsewhere).symm
    rw [own] at same
    cases receiver <;> cases place : rival.receiver <;> simp [place] at same other

def concerns (classifier : Classifier) (receiver : Receiver) (path : Path) : Bool :=
  decide (classifier.classify path = some .music) == decide (receiver = .music)

theorem separates_concerns (classifier : Classifier) (receiver : Receiver) :
    classifier.Separates receiver (classifier.concerns receiver) := by
  intro sourceDir path change classified
  rw [concerns, beq_iff_eq, decide_eq_decide, ← receiver_of_classify classified]
  cases change <;> cases receiver <;> simp [Change.receiver]

theorem Separates.classify_eq {receiver : Receiver} {keep : Path → Bool} {path : Path}
    (separates : classifier.Separates receiver keep) (kept : keep path = true)
    {sourceDir other : Option Path} (same : receiver = .code → other = sourceDir) :
    ({ classifier with sourceDir := other } : Classifier).classify path =
      ({ classifier with sourceDir } : Classifier).classify path := by
  cases receiver with
  | code => rw [same rfl]
  | music =>
      -- whatever a kept path is taken for is the music
      have only_music {place : Option Path} {change : Change}
          (classified : ({ classifier with sourceDir := place } : Classifier).classify path =
            some change) : classifier.classify path = some .music :=
        (receiver_of_classify classified).mp ((separates place path change classified).mp kept)
      by_cases music : classifier.classify path = some .music
      · rw [(classifier.classify_music_iff other path).mpr music,
          (classifier.classify_music_iff sourceDir path).mpr music]
      · have silent (place : Option Path) :
            ({ classifier with sourceDir := place } : Classifier).classify path = none := by
          by_contra some_change
          obtain ⟨change, classified⟩ := Option.ne_none_iff_exists'.mp some_change
          exact music (only_music classified)
        rw [silent other, silent sourceDir]

theorem Separates.filter_classify {receiver : Receiver} {keep : Path → Bool}
    (separates : classifier.Separates receiver keep) (sourceDir : Option Path) (path : Path) :
    (({ classifier with sourceDir } : Classifier).classify path).toList.filter
        (Change.isFor receiver) =
      if keep path then (({ classifier with sourceDir } : Classifier).classify path).toList
      else [] := by
  cases classified : ({ classifier with sourceDir } : Classifier).classify path with
  | none => simp
  | some change =>
      have own := separates sourceDir path change classified
      by_cases kept : keep path = true
      · simp [kept, Change.isFor, own.mp kept]
      · simp [kept, Change.isFor, mt own.mpr kept]

end Classifier

namespace Notice

/-- A notice without the paths that are not kept, or nothing if none of them is; a notice of
anything but a change says nothing to begin with. -/
def only? (keep : Path → Bool) (notice : Notice) : Option Notice :=
  let paths := notice.paths.filter keep
  if notice.kind.isChange = false ∨ paths = notice.paths then some notice
  else if paths = [] then none
  else some { notice with paths }

variable (keep : Path → Bool)

theorem changedPaths_only? (notice : Notice) :
    Dispatch.changedPaths (notice.only? keep).toList =
      (Dispatch.changedPaths [notice]).filter keep := by
  unfold only?
  by_cases changed : notice.kind.isChange = true
  · by_cases all : notice.paths.filter keep = notice.paths
    · simp [Dispatch.changedPaths, changed, all]
    · by_cases gone : notice.paths.filter keep = []
      · simp [Dispatch.changedPaths, changed, gone]
      · simp [Dispatch.changedPaths, changed, all, gone]
  · simp [Dispatch.changedPaths, changed]

end Notice

namespace Dispatch

theorem changedPaths_append (front back : List Notice) :
    changedPaths (front ++ back) = changedPaths front ++ changedPaths back := by
  simp [changedPaths]

theorem changedPaths_filterMap (keep : Path → Bool) (notices : List Notice) :
    changedPaths (notices.filterMap (Notice.only? keep)) = (changedPaths notices).filter keep := by
  induction notices with
  | nil => rfl
  | cons notice rest ih =>
      have front : (notice :: rest).filterMap (Notice.only? keep) =
          (notice.only? keep).toList ++ rest.filterMap (Notice.only? keep) := by
        rw [List.filterMap_cons]
        cases notice.only? keep <;> rfl
      rw [front, changedPaths_append, notice.changedPaths_only? keep, ih, ← List.filter_append,
        ← changedPaths_append, List.singleton_append]

/-- The watcher as it would be if only the paths that are kept had ever been noticed, all of them
for one receiver. -/
def only (dispatch : Dispatch) (receiver : Receiver) (keep : Path → Bool) : Dispatch :=
  { dispatch with
    notices := dispatch.notices.filterMap (Notice.only? keep)
    paths := dispatch.paths.filter keep
    found := dispatch.found.filter (Change.isFor receiver)
    announced := dispatch.announced.filter (Change.isFor receiver)
    stage := match dispatch.stage with
      | .failed other => if other = receiver then .failed other else .working
      | stage => stage
    waiting := fun other => if other = receiver then dispatch.waiting other else [] }

/-- What is left of an action when all that concerns the other receiver is left out. -/
def kept? (dispatch : Dispatch) (receiver : Receiver) (keep : Path → Bool) :
    DispatchAction → Option DispatchAction
  | .notify notice => (notice.only? keep).map .notify
  | .take count =>
    let notices := (dispatch.notices.take count).filterMap (Notice.only? keep)
    if 0 < notices.length then some (.take notices.length) else none
  | .classify => if dispatch.paths.head?.any keep then some .classify else none
  | .announce => if dispatch.next?.any (Change.isFor receiver) then some .announce else none
  | .send => if dispatch.announced.any (Change.isFor receiver) then some .send else none
  | .fail => if dispatch.announced.any (Change.isFor receiver) then some .fail else none
  | .cutOff => some .cutOff
  | .shutDown => some .shutDown
  | .finish => some .finish

theorem create_only (classifier : Classifier) (receiver : Receiver) (keep : Path → Bool) :
    (create classifier).only receiver keep = create classifier := by
  simp [only, create]

variable {dispatch : Dispatch} {receiver : Receiver} {keep : Path → Bool}

theorem pending_only : (dispatch.only receiver keep).pending =
    dispatch.pending.filter (Change.isFor receiver) := by
  simp only [pending, only, List.filter_filter]
  congr 1
  funext change
  simp [Bool.and_comm]

theorem only_working (working : dispatch.stage = .working) :
    (dispatch.only receiver keep).stage = .working := by
  simp [only, working]

theorem next?_only {change : Change} (next : dispatch.next? = some change)
    (own : Change.isFor receiver change = true) :
    (dispatch.only receiver keep).next? = some change := by
  simp only [next?, Option.ite_none_right_eq_some] at next ⊢
  obtain ⟨⟨working, looked, free⟩, first⟩ := next
  refine ⟨⟨only_working working, ?_, ?_⟩, ?_⟩
  · simp [only, looked]
  · simp [only, free]
  · obtain ⟨rest, all⟩ := List.head?_eq_some_iff.mp first
    rw [pending_only, all, List.filter_cons_of_pos own]
    rfl

theorem announced_only {change : Change} (announced : dispatch.announced = some change)
    (own : Change.isFor receiver change = true) :
    (dispatch.only receiver keep).announced = some change := by
  rw [only, announced, Option.filter_some_pos own]

theorem isIdle_only (idle : dispatch.isIdle = true) :
    (dispatch.only receiver keep).isIdle = true := by
  simp only [isIdle, Bool.and_eq_true, decide_eq_true_eq, List.isEmpty_iff] at idle ⊢
  obtain ⟨⟨working, looked⟩, nothing⟩ := idle
  exact ⟨⟨only_working working, by simp [only, looked]⟩, by simp [only, nothing]⟩

theorem isOver_only (ended : dispatch.isOver = true) :
    (dispatch.only receiver keep).isOver = true := by
  simp only [isOver, Bool.or_eq_true, Bool.and_eq_true, List.isEmpty_iff] at ended ⊢
  rcases ended with stopping | ⟨cut, none_left⟩
  · exact .inl stopping
  · exact .inr ⟨cut, by simp [only, none_left]⟩

theorem isFull_only : (dispatch.only receiver keep).isFull receiver = dispatch.isFull receiver := by
  simp [isFull, only]

theorem setWaiting_only (changes : List Change) :
    (dispatch.setWaiting receiver changes).only receiver keep =
      (dispatch.only receiver keep).setWaiting receiver changes := by
  simp only [only, setWaiting, mk.injEq, true_and, and_true]
  funext other
  by_cases same : other = receiver <;> simp [same]

theorem setWaiting_other {other : Receiver} (aside : other ≠ receiver) (changes : List Change) :
    (dispatch.setWaiting other changes).only receiver keep = dispatch.only receiver keep := by
  simp only [only, setWaiting, mk.injEq, true_and, and_true]
  funext place
  by_cases same : place = receiver
  · subst place
    simp [aside.symm]
  · simp [same]

theorem sent_only {change : Change} (own : Change.isFor receiver change = true) :
    (dispatch.sent change).only receiver keep = (dispatch.only receiver keep).sent change := by
  obtain rfl : change.receiver = receiver := of_decide_eq_true own
  simp only [sent, only, setWaiting, mk.injEq, Option.filter_none, List.filter_filter, true_and,
    and_true, if_true]
  constructor
  · congr 1
    funext other
    rw [Bool.and_comm]
  · funext other
    by_cases same : other = change.receiver <;> simp [same]

theorem sent_other {change : Change} (other : Change.isFor receiver change = false)
    (announced : dispatch.announced = some change) :
    (dispatch.sent change).only receiver keep = dispatch.only receiver keep := by
  have aside : change.receiver ≠ receiver := of_decide_eq_false other
  have waits : (dispatch.setWaiting change.receiver
      (dispatch.waiting change.receiver ++ [change])).only receiver keep =
        dispatch.only receiver keep := setWaiting_other aside _
  have found : (dispatch.found.filter fun found => found ≠ change).filter (Change.isFor receiver) =
      dispatch.found.filter (Change.isFor receiver) := by
    rw [List.filter_filter]
    refine List.filter_congr fun found _ => ?_
    by_cases same : found = change
    · simp [same, other]
    · simp [same]
  have nothing : dispatch.announced.filter (Change.isFor receiver) = none := by
    rw [announced, Option.filter_some_neg other]
  rw [← waits]
  simp only [only, sent, setWaiting, found, nothing, Option.filter_none]

/-- A step is one as well when what concerns the other receiver is left out, or nothing is left of
it. -/
def Survives (dispatch : Dispatch) (receiver : Receiver) (keep : Path → Bool)
    (sourceDir : Option Path) (isOpen : Receiver → Bool) (action : DispatchAction)
    (next : Dispatch × List LogEntry) : Prop :=
  (∃ kept, dispatch.kept? receiver keep action = some kept ∧
    Happens (dispatch.only receiver keep) sourceDir isOpen kept
      (next.1.only receiver keep, next.2)) ∨
  (dispatch.kept? receiver keep action = none ∧
    next.1.only receiver keep = dispatch.only receiver keep)

section

variable {sourceDir otherDir : Option Path} {isOpen isOpenThen : Receiver → Bool}

theorem noticed_survives {notice : Notice} (connected : dispatch.isCutOff = false) :
    dispatch.Survives receiver keep otherDir isOpenThen (.notify notice)
      ({ dispatch with notices := dispatch.notices ++ [notice] }, []) := by
  cases kept : notice.only? keep with
  | none =>
      refine .inr ⟨by rw [kept?, kept]; rfl, ?_⟩
      simp [only, List.filterMap_append, kept]
  | some rest =>
      refine .inl ⟨.notify rest, by rw [kept?, kept]; rfl, ?_⟩
      have result : ({ dispatch with notices := dispatch.notices ++ [notice] } : Dispatch).only
          receiver keep = { dispatch.only receiver keep with
            notices := (dispatch.only receiver keep).notices ++ [rest] } := by
        simp [only, kept]
      rw [result]
      exact .noticed connected

theorem taken_survives {count : Nat} (idle : dispatch.isIdle = true)
    (going : dispatch.isStopping = false) :
    dispatch.Survives receiver keep otherDir isOpenThen (.take count)
      (dispatch.taken count, []) := by
  have parts : dispatch.notices.filterMap (Notice.only? keep) =
      (dispatch.notices.take count).filterMap (Notice.only? keep) ++
        (dispatch.notices.drop count).filterMap (Notice.only? keep) := by
    rw [← List.filterMap_append, List.take_append_drop]
  by_cases some_left : 0 < ((dispatch.notices.take count).filterMap (Notice.only? keep)).length
  · refine .inl ⟨_, if_pos some_left, ?_⟩
    have result : (dispatch.taken count).only receiver keep = (dispatch.only receiver keep).taken
        ((dispatch.notices.take count).filterMap (Notice.only? keep)).length := by
      simp only [taken, only, parts, List.take_left, List.drop_left, changedPaths_filterMap]
    rw [result]
    exact .taken (isIdle_only idle) going some_left (by simp [only, parts])
  · refine .inr ⟨if_neg some_left, ?_⟩
    have none_left : (dispatch.notices.take count).filterMap (Notice.only? keep) = [] :=
      List.length_eq_zero_iff.mp (Nat.eq_zero_of_not_pos some_left)
    obtain ⟨-, looked, -⟩ := working_of_isIdle idle
    have nothing := changedPaths_filterMap keep (dispatch.notices.take count)
    rw [none_left] at parts nothing
    simp only [taken, only, parts, ← nothing, looked, List.nil_append]
    rfl

theorem classified_survives {path : Path} {rest : List Path}
    (separates : dispatch.classifier.Separates receiver keep)
    (same : receiver = .code → otherDir = sourceDir) (working : dispatch.stage = .working)
    (looking : dispatch.paths = path :: rest) :
    dispatch.Survives receiver keep otherDir isOpenThen .classify ({ dispatch with
      paths := rest
      found := dispatch.found ++ ((dispatch.knowing sourceDir).classify path).toList }, []) := by
  have found := separates.filter_classify sourceDir path
  cases kept : keep path with
  | true =>
      refine .inl ⟨.classify, by simp [kept?, looking, kept], ?_⟩
      have left : (dispatch.only receiver keep).paths = path :: rest.filter keep := by
        rw [only, looking, List.filter_cons_of_pos kept]
      have alike : ((dispatch.only receiver keep).knowing otherDir).classify path =
          (dispatch.knowing sourceDir).classify path := separates.classify_eq kept same
      have result : ({ dispatch with
          paths := rest
          found := dispatch.found ++
            ((dispatch.knowing sourceDir).classify path).toList } : Dispatch).only receiver keep =
          { dispatch.only receiver keep with
            paths := rest.filter keep
            found := (dispatch.only receiver keep).found ++
              (((dispatch.only receiver keep).knowing otherDir).classify path).toList } := by
        rw [if_pos kept] at found
        rw [alike]
        simp only [only, knowing, List.filter_append, found]
      rw [result]
      exact .classified (only_working working) left
  | false =>
      refine .inr ⟨by simp [kept?, looking, kept], ?_⟩
      simp only [kept, Bool.false_eq_true, if_false] at found
      simp only [only, looking, List.filter_cons_of_neg (ne_true_of_eq_false kept), knowing,
        List.filter_append, found, List.append_nil]

theorem announced_survives {change : Change} (first : dispatch.next? = some change) :
    dispatch.Survives receiver keep otherDir isOpenThen .announce
      ({ dispatch with announced := some change },
        [.info "watch" (change.label ++ " changed")]) := by
  cases own : Change.isFor receiver change with
  | true =>
      refine .inl ⟨.announce, by simp [kept?, first, own], ?_⟩
      have result : ({ dispatch with announced := some change } : Dispatch).only receiver keep =
          { dispatch.only receiver keep with announced := some change } := by
        simp only [only, Option.filter_some_pos own]
      rw [result]
      exact .announced (next?_only first own)
  | false =>
      refine .inr ⟨by simp [kept?, first, own], ?_⟩
      have free : dispatch.announced = none := by
        simp only [next?, Option.ite_none_right_eq_some] at first
        exact first.1.2.2
      simp only [only, free, Option.filter_none, Option.filter_some_neg own]

theorem sent_survives {change : Change} (opens : isOpenThen receiver = isOpen receiver)
    (announced : dispatch.announced = some change) (working : dispatch.stage = .working)
    (isThere : isOpen change.receiver = true) (space : dispatch.isFull change.receiver = false) :
    dispatch.Survives receiver keep otherDir isOpenThen .send (dispatch.sent change, []) := by
  cases own : Change.isFor receiver change with
  | true =>
      refine .inl ⟨.send, by simp [kept?, announced, own], ?_⟩
      obtain rfl : change.receiver = receiver := of_decide_eq_true own
      rw [sent_only own]
      exact .sent (announced_only announced own) (only_working working) (opens.trans isThere)
        (isFull_only.trans space)
  | false =>
      refine .inr ⟨by simp [kept?, announced, own], ?_⟩
      exact sent_other own announced

theorem failed_survives {change : Change} (opens : isOpenThen receiver = isOpen receiver)
    (announced : dispatch.announced = some change) (working : dispatch.stage = .working)
    (gone : isOpen change.receiver = false) :
    dispatch.Survives receiver keep otherDir isOpenThen .fail
      ({ dispatch with stage := .failed change.receiver }, []) := by
  cases own : Change.isFor receiver change with
  | true =>
      refine .inl ⟨.fail, by simp [kept?, announced, own], ?_⟩
      obtain rfl : change.receiver = receiver := of_decide_eq_true own
      have result : ({ dispatch with stage := .failed change.receiver } : Dispatch).only
          change.receiver keep =
            { dispatch.only change.receiver keep with stage := .failed change.receiver } := by
        simp only [only, if_true]
      rw [result]
      exact .failed (announced_only announced own) (only_working working) (opens.trans gone)
  | false =>
      refine .inr ⟨by simp [kept?, announced, own], ?_⟩
      have aside : change.receiver ≠ receiver := of_decide_eq_false own
      simp only [only, working, if_neg aside]

theorem Happens.survives {action : DispatchAction} {next : Dispatch × List LogEntry}
    (happens : Happens dispatch sourceDir isOpen action next)
    (separates : dispatch.classifier.Separates receiver keep)
    (same : receiver = .code → otherDir = sourceDir)
    (opens : isOpenThen receiver = isOpen receiver) :
    dispatch.Survives receiver keep otherDir isOpenThen action next := by
  cases happens with
  | noticed connected => exact noticed_survives connected
  | cutOff => exact .inl ⟨.cutOff, rfl, .cutOff⟩
  | told => exact .inl ⟨.shutDown, rfl, .told⟩
  | taken idle going => exact taken_survives idle going
  | classified working looking => exact classified_survives separates same working looking
  | announced first => exact announced_survives first
  | sent announced working isThere space =>
      exact sent_survives opens announced working isThere space
  | failed announced working gone => exact failed_survives opens announced working gone
  | finished idle ended =>
      exact .inl ⟨.finish, rfl, .finished (isIdle_only idle) (isOver_only ended)⟩

end

variable {input : LoopInput} {next : Dispatch}

theorem admit?_only (failed : ∀ other, dispatch.stage = .failed other → dispatch.isStopping = true)
    (possible : dispatch.admit? receiver input = some next) :
    (dispatch.only receiver keep).admit? receiver input = some (next.only receiver keep) := by
  have same : (dispatch.only receiver keep).waiting receiver = dispatch.waiting receiver := by
    simp [only]
  cases input with
  | clock => simp [admit?] at possible
  | change change =>
      simp only [admit?, same] at possible ⊢
      split at possible
      · rename_i first rest waits
        simp only [Option.ite_none_right_eq_some] at possible
        obtain ⟨oldest, taken⟩ := possible
        obtain rfl := Option.some.inj taken
        rw [setWaiting_only]
        exact if_pos oldest
      · simp at possible
  | stop =>
      simp only [admit?, Option.ite_none_right_eq_some] at possible ⊢
      obtain ⟨told, unchanged⟩ := possible
      obtain rfl := Option.some.inj unchanged
      refine ⟨?_, rfl⟩
      rcases told with stopping | ⟨ended, nothing⟩
      · exact .inl stopping
      · cases stage : dispatch.stage with
        | working => exact absurd stage ended
        | finished => exact .inr ⟨by simp [only, stage], same.trans nothing⟩
        | failed other => exact .inl (failed other stage)
  | nothing =>
      obtain rfl := Option.some.inj possible
      rfl

theorem admit?_other {other : Receiver} (aside : other ≠ receiver)
    (possible : dispatch.admit? other input = some next) :
    next.only receiver keep = dispatch.only receiver keep := by
  rcases admitted_of_admit? possible with ⟨rfl, -⟩ | ⟨change, rest, -, -, rfl⟩
  · rfl
  · exact setWaiting_other aside _

end Dispatch

end BuildWatch

import BuildWatch.Proofs.Coordinator.Dispatch
import BuildWatch.Proofs.Watch.Batch

/-!
From a batch of notices to the queues of the receivers. What is passed on is the set of kinds that
the batch affects, each once and in order, to its own receiver. Meanwhile the receivers take changes
out of their queues, and each of them may be gone at any time: the watcher stops at the first change
that finds its receiver gone.
-/

namespace BuildWatch.Dispatch

variable {dispatch start after : Dispatch} {sourceDir : Option Path} {isOpen : Receiver → Bool}
  {action : DispatchAction} {changes sent : List Change}
  {attempts : List (Change × Bool)} {received : Receiver → List Change}

def looked (dispatch : Dispatch) (classifier : Classifier) (notices : List Notice) : Dispatch :=
  { dispatch with
    stage := .working
    paths := []
    found := (changedPaths notices).filterMap classifier.classify
    announced := none }

def attempt (dispatch : Dispatch) (isOpen : Receiver → Bool) :
    DispatchAction → List (Change × Bool)
  | .send | .fail => dispatch.announced.toList.map fun change => (change, isOpen change.receiver)
  | .notify _ | .cutOff | .shutDown | .take _ | .classify | .announce | .finish => []

def takes (received : Receiver → List Change) (receiver : Receiver) :
    LoopInput → Receiver → List Change
  | .change change, other =>
    if other = receiver then received other ++ [change] else received other
  | _, other => received other

/-- The steps by which a watcher passes its changes on, whatever else happens between them, with all
that was tried and all that was taken out of the queues. A new batch is not taken yet. -/
inductive Passes (start : Dispatch) :
    List (Change × Bool) → (Receiver → List Change) → Dispatch → Prop
  | begin : Passes start [] (fun _ => []) start
  | step {attempts received dispatch sourceDir isOpen action next} :
      Passes start attempts received dispatch →
      dispatch.step? sourceDir isOpen action = some next → (∀ count, action ≠ .take count) →
      Passes start (attempts ++ dispatch.attempt isOpen action) received next.1
  | taken {attempts received dispatch receiver input next} :
      Passes start attempts received dispatch → dispatch.admit? receiver input = some next →
      Passes start attempts (takes received receiver input) next

/-- How trying to pass changes on has come out: all that was tried was sent, or the last change has
found its receiver gone. -/
inductive Outcome (sent rest : List Change) : List (Change × Bool) → WatchStage → Prop
  | working : Outcome sent rest (sent.map (·, true)) .working
  | finished : rest = [] → Outcome sent rest (sent.map (·, true)) .finished
  | failed {change more} : rest = change :: more →
      Outcome sent rest (sent.map (·, true) ++ [(change, false)]) (.failed change.receiver)

structure Passed (start : Dispatch) (changes : List Change) (attempts : List (Change × Bool))
    (received : Receiver → List Change) (sent : List Change) (after : Dispatch) : Prop where
  looked : after.paths = []
  whole : sent ++ after.pending = changes
  next : ∀ change, after.announced = some change → after.pending.head? = some change
  queues : ∀ receiver, received receiver ++ after.waiting receiver =
    start.waiting receiver ++ sent.filter (Change.isFor receiver)
  outcome : Outcome sent after.pending attempts after.stage

theorem Passed.keep (passed : Passed start changes attempts received sent dispatch)
    (paths : after.paths = []) (pending : after.pending = dispatch.pending)
    (next : ∀ change, after.announced = some change → dispatch.pending.head? = some change)
    (waiting : after.waiting = dispatch.waiting) (stage : after.stage = dispatch.stage) :
    Passed start changes attempts received sent after where
  looked := paths
  whole := pending ▸ passed.whole
  next := pending ▸ next
  queues := waiting ▸ passed.queues
  outcome := pending ▸ stage ▸ passed.outcome

theorem Passed.attempts_of_working (passed : Passed start changes attempts received sent dispatch)
    (working : dispatch.stage = .working) : attempts = sent.map (·, true) := by
  have outcome := passed.outcome
  rw [working] at outcome
  cases outcome
  rfl

theorem Passed.send (passed : Passed start changes attempts received sent dispatch) {change : Change}
    (announced : dispatch.announced = some change) (working : dispatch.stage = .working)
    (isThere : isOpen change.receiver = true) :
    Passed start changes (attempts ++ dispatch.attempt isOpen .send) received (sent ++ [change])
      (dispatch.sent change) := by
  obtain ⟨rest, pending⟩ := List.head?_eq_some_iff.mp (passed.next change announced)
  have rest_pending := pending_sent pending
  have tried : attempts ++ dispatch.attempt isOpen .send = (sent ++ [change]).map (·, true) := by
    rw [attempt, announced, passed.attempts_of_working working, List.map_append]
    simp [isThere]
  refine ⟨passed.looked, ?_, ?_, ?_, ?_⟩
  · rw [rest_pending, List.append_assoc, List.singleton_append, ← pending]
    exact passed.whole
  · intro other same
    exact absurd same.symm (Option.some_ne_none other)
  · intro receiver
    rw [sent_waiting, ← List.append_assoc, passed.queues, List.filter_append, List.append_assoc]
  · rw [tried, show (dispatch.sent change).stage = .working from working]
    exact .working

theorem Passed.step (passed : Passed start changes attempts received sent dispatch)
    {next : Dispatch × List LogEntry} (happens : Happens dispatch sourceDir isOpen action next)
    (other : ∀ count, action ≠ .take count) :
    ∃ sent, Passed start changes (attempts ++ dispatch.attempt isOpen action) received sent
      next.1 := by
  cases happens with
  | noticed | cutOff | told =>
      rw [attempt, List.append_nil]
      exact ⟨sent, passed.keep passed.looked rfl passed.next rfl rfl⟩
  | @taken count => exact absurd rfl (other count)
  | classified working looking => simp [passed.looked] at looking
  | @announced change first =>
      rw [next?, Option.ite_none_right_eq_some] at first
      rw [attempt, List.append_nil]
      refine ⟨sent, passed.keep passed.looked rfl ?_ rfl rfl⟩
      intro announced same
      exact Option.some.inj same ▸ first.2
  | @sent change announced working isThere =>
      exact ⟨_, passed.send announced working isThere⟩
  | @failed change announced working gone =>
      obtain ⟨rest, pending⟩ := List.head?_eq_some_iff.mp (passed.next change announced)
      refine ⟨sent, passed.looked, passed.whole, passed.next, passed.queues, ?_⟩
      rw [attempt, announced, passed.attempts_of_working working]
      simp only [Option.toList_some, List.map_cons, List.map_nil, gone]
      exact .failed pending
  | finished idle ended =>
      obtain ⟨working, -, nothing⟩ := working_of_isIdle idle
      have none_pending : dispatch.pending = [] := by simp [pending, nothing]
      refine ⟨sent, passed.looked, passed.whole, passed.next, passed.queues, ?_⟩
      rw [attempt, List.append_nil, passed.attempts_of_working working]
      exact .finished none_pending

theorem Passed.taken (passed : Passed start changes attempts received sent dispatch)
    {receiver : Receiver} {input : LoopInput}
    (admitted : dispatch.admit? receiver input = some after) :
    Passed start changes attempts (takes received receiver input) sent after := by
  cases input with
  | clock => simp [admit?] at admitted
  | change change =>
      simp only [admit?] at admitted
      split at admitted
      · rename_i first rest waiting
        rw [Option.ite_none_right_eq_some] at admitted
        obtain ⟨rfl, same⟩ := admitted
        obtain rfl := Option.some.inj same
        refine ⟨passed.looked, passed.whole, passed.next, ?_, passed.outcome⟩
        intro place
        have queue := passed.queues place
        by_cases own : place = receiver
        · subst own
          simpa [takes, setWaiting, waiting] using queue
        · simpa [takes, setWaiting, own] using queue
      · simp at admitted
  | stop =>
      simp only [admit?, Option.ite_none_right_eq_some] at admitted
      obtain rfl := Option.some.inj admitted.2
      exact passed
  | nothing =>
      obtain rfl := Option.some.inj admitted
      exact passed

theorem Passes.passed (passes : Passes start attempts received after)
    (begun : Passed start changes [] (fun _ => []) [] start) :
    ∃ sent, Passed start changes attempts received sent after := by
  induction passes with
  | begin => exact ⟨[], begun⟩
  | step passes possible other ih =>
      obtain ⟨sent, passed⟩ := ih
      exact passed.step (happens_of_step? possible) other
  | taken passes admitted ih =>
      obtain ⟨sent, passed⟩ := ih
      exact ⟨sent, passed.taken admitted⟩

theorem passed_looked (dispatch : Dispatch) (classifier : Classifier) (notices : List Notice) :
    Passed (dispatch.looked classifier notices) (classifier.collect notices) [] (fun _ => []) []
      (dispatch.looked classifier notices) where
  looked := rfl
  whole := pending_eq_collect rfl
  next := nofun
  queues := fun _ => (List.append_nil _).symm
  outcome := .working

/-- A batch of notices is passed on as the set of the kinds that its changed paths affect, in the
order of the kinds: it does not matter in which order they are found, how often and in which order
paths are noticed, or whether the batch is cut in two. Each change is put once into the queue of its
receiver, until one finds its receiver gone; nothing is tried after that. -/
theorem affected_passed_on (classifier : Classifier) (notices : List Notice) :
    let changes := classifier.collect notices
    Change.Increasing changes ∧
      (∀ change, change ∈ changes ↔ ∃ notice ∈ notices,
        (notice.kind = .created ∨ notice.kind = .removed ∨ notice.kind = .modified) ∧
          ∃ path ∈ notice.paths, classifier.classify path = some change) ∧
      (∀ found : List Change, found.Nodup → (∀ change, change ∈ found ↔ change ∈ changes) →
        Change.sorted found = changes) ∧
      (∀ others, (∀ path, path ∈ changedPaths others ↔ path ∈ changedPaths notices) →
        classifier.collect others = changes) ∧
      (∀ more, classifier.collect (notices ++ more) =
        Change.sorted (changes ∪ classifier.collect more)) ∧
      (∀ isOpen listed,
        (route isOpen listed).delivered = listed.takeWhile (fun change => isOpen change.receiver) ∧
          (route isOpen listed).isComplete = listed.all fun change => isOpen change.receiver) ∧
      ∀ (dispatch : Dispatch) attempts received after,
        Passes (dispatch.looked classifier notices) attempts received after →
        ∃ sent rest, changes = sent ++ rest ∧ after.pending = rest ∧
          (∀ receiver, received receiver ++ after.waiting receiver =
            dispatch.waiting receiver ++ sent.filter fun change => change.receiver = receiver) ∧
          Outcome sent rest attempts after.stage := by
  intro changes
  refine ⟨classifier.collect_increasing notices, fun change => ?_, fun found => ?_, fun others => ?_,
    classifier.collect_append notices, fun isOpen listed => ?_, ?_⟩
  · have changed (kind : NoticeKind) :
        kind.isChange = true ↔ kind = .created ∨ kind = .removed ∨ kind = .modified := by
      cases kind <;> simp [NoticeKind.isChange]
    simp only [changes, Classifier.mem_collect, Classifier.affects_iff, changed]
  · exact Classifier.sorted_eq_collect
  · exact Classifier.collect_congr
  · exact ⟨route_delivered isOpen listed, route_isComplete isOpen listed⟩
  · intro dispatch attempts received after passes
    obtain ⟨sent, passed⟩ := passes.passed (dispatch.passed_looked classifier notices)
    exact ⟨sent, after.pending, passed.whole.symm, rfl, passed.queues, passed.outcome⟩

def gameClassifier : Classifier :=
  .of (.ofText "/game") (.ofText "project.json") (.ofText "music") (some (.ofText "src"))

def mixedBatch : List Notice :=
  [⟨.modified, [.ofText "/game/music/songs.json", .ofText "/game/src/main.js"]⟩,
    ⟨.metadata, [.ofText "/game/project.json"]⟩,
    ⟨.removed, [.ofText "/game/src/main.js", .ofText "/game/project.json"]⟩]

/-- The loop that builds the code takes the first change while the other one ends, so that the song
is not passed on. -/
theorem affected_passed_on_cut : ∃ attempts received after,
    Passes ((create gameClassifier).looked gameClassifier mixedBatch) attempts received after ∧
      attempts = [(.config, true), (.source, true), (.music, false)] ∧
      received .code = [.config] ∧ after.waiting .code = [.source] ∧
      ∃ sent rest, gameClassifier.collect mixedBatch = sent ++ rest ∧ after.pending = rest ∧
        received .code ++ after.waiting .code = sent.filter (fun change => change.receiver = .code) ∧
        Outcome sent rest attempts after.stage := by
  have found : (changedPaths mixedBatch).filterMap gameClassifier.classify =
      [.music, .source, .source, .config] := by decide
  let start : Dispatch :=
    { create gameClassifier with found := [.music, .source, .source, .config] }
  have looked : (create gameClassifier).looked gameClassifier mixedBatch = start := by
    rw [Dispatch.looked, found]
    rfl
  have tries {attempts received dispatch} (past : Passes start attempts received dispatch)
      (isOpen : Receiver → Bool) (action : DispatchAction) {next : Dispatch × List LogEntry}
      (possible : dispatch.step? none isOpen action = some next) := past.step possible
  let both : Receiver → Bool := fun _ => true
  let codeOnly : Receiver → Bool := fun receiver => receiver = .code
  have config := tries (tries .begin both .announce rfl nofun) both .send rfl nofun
  have taken := config.taken (show admit? _ .code (.change .config) = some _ from rfl)
  have source := tries (tries taken both .announce rfl nofun) both .send rfl nofun
  have song := tries (tries source codeOnly .announce rfl nofun) codeOnly .fail rfl nofun
  obtain ⟨-, -, -, -, -, -, passes⟩ := affected_passed_on gameClassifier mixedBatch
  obtain ⟨sent, rest, whole, pending, queues, outcome⟩ := passes _ _ _ _ (looked ▸ song)
  exact ⟨_, _, _, looked ▸ song, rfl, rfl, rfl, sent, rest, whole, pending, queues .code, outcome⟩

end BuildWatch.Dispatch

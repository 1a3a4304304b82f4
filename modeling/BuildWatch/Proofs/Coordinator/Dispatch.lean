import BuildWatch.Coordinator.Dispatch
import BuildWatch.Proofs.Watch.Classifier

/-!
What the steps of the watcher amount to. A batch that nobody disturbs is collected as a whole and
passed on as a whole, whatever the number of steps that it takes.
-/

namespace BuildWatch

def Change.isFor (receiver : Receiver) (change : Change) : Bool := change.receiver = receiver

namespace Dispatch

variable {dispatch : Dispatch} {sourceDir : Option Path} {isOpen : Receiver → Bool}
  {action : DispatchAction}

inductive Happens (dispatch : Dispatch) (sourceDir : Option Path) (isOpen : Receiver → Bool) :
    DispatchAction → Dispatch × List LogEntry → Prop
  | noticed {notice} : dispatch.isCutOff = false → Happens dispatch sourceDir isOpen
      (.notify notice) ({ dispatch with notices := dispatch.notices ++ [notice] }, [])
  | cutOff : Happens dispatch sourceDir isOpen .cutOff ({ dispatch with isCutOff := true }, [])
  | told : Happens dispatch sourceDir isOpen .shutDown ({ dispatch with isStopping := true }, [])
  | taken {count} : dispatch.isIdle = true → dispatch.isStopping = false → 0 < count →
      count ≤ dispatch.notices.length →
      Happens dispatch sourceDir isOpen (.take count) (dispatch.taken count, [])
  | classified {path rest} : dispatch.stage = .working → dispatch.paths = path :: rest →
      Happens dispatch sourceDir isOpen .classify ({ dispatch with
        paths := rest
        found := dispatch.found ++ ((dispatch.knowing sourceDir).classify path).toList }, [])
  | announced {change} : dispatch.next? = some change → Happens dispatch sourceDir isOpen .announce
      ({ dispatch with announced := some change }, [.info "watch" (change.label ++ " changed")])
  | sent {change} : dispatch.announced = some change → dispatch.stage = .working →
      isOpen change.receiver = true → dispatch.isFull change.receiver = false →
      Happens dispatch sourceDir isOpen .send (dispatch.sent change, [])
  | failed {change} : dispatch.announced = some change → dispatch.stage = .working →
      isOpen change.receiver = false → Happens dispatch sourceDir isOpen .fail
      ({ dispatch with stage := .failed change.receiver }, [])
  | finished : dispatch.isIdle = true → dispatch.isOver = true →
      Happens dispatch sourceDir isOpen .finish ({ dispatch with stage := .finished }, [])

theorem happens_of_step? {next : Dispatch × List LogEntry}
    (possible : dispatch.step? sourceDir isOpen action = some next) :
    Happens dispatch sourceDir isOpen action next := by
  cases action with
  | notify notice =>
      simp only [step?, Option.ite_none_left_eq_some, Bool.not_eq_true] at possible
      obtain ⟨connected, same⟩ := possible
      obtain rfl := Option.some.inj same
      exact .noticed connected
  | cutOff =>
      obtain rfl := Option.some.inj possible
      exact .cutOff
  | shutDown =>
      obtain rfl := Option.some.inj possible
      exact .told
  | take count =>
      simp only [step?, Option.ite_none_right_eq_some] at possible
      obtain ⟨⟨idle, going, positive, enough⟩, same⟩ := possible
      obtain rfl := Option.some.inj same
      exact .taken idle going positive enough
  | classify =>
      simp only [step?] at possible
      split at possible
      · rename_i working looking
        obtain rfl := Option.some.inj possible
        exact .classified working looking
      · simp at possible
  | announce =>
      obtain ⟨change, first, rfl⟩ := Option.map_eq_some_iff.mp possible
      exact .announced first
  | send =>
      simp only [step?] at possible
      split at possible
      · simp only [Option.ite_none_right_eq_some] at possible
        obtain ⟨⟨working, isThere, space⟩, same⟩ := possible
        obtain rfl := Option.some.inj same
        exact .sent ‹_› working isThere space
      · simp at possible
  | fail =>
      simp only [step?] at possible
      split at possible
      · simp only [Option.ite_none_right_eq_some] at possible
        obtain ⟨⟨working, gone⟩, same⟩ := possible
        obtain rfl := Option.some.inj same
        exact .failed ‹_› working gone
      · simp at possible
  | finish =>
      simp only [step?, Option.ite_none_right_eq_some] at possible
      obtain ⟨⟨idle, ended⟩, same⟩ := possible
      obtain rfl := Option.some.inj same
      exact .finished idle ended

theorem Happens.step? {next : Dispatch × List LogEntry}
    (happens : Happens dispatch sourceDir isOpen action next) :
    dispatch.step? sourceDir isOpen action = some next := by
  cases happens with
  | noticed connected => simp [Dispatch.step?, connected]
  | cutOff | told => rfl
  | taken idle going positive enough => exact if_pos ⟨idle, going, positive, enough⟩
  | classified working looking => simp only [Dispatch.step?, working, looking]
  | announced first => simp only [Dispatch.step?, first, Option.map_some]
  | sent announced working isThere space =>
      simp only [Dispatch.step?, announced]
      exact if_pos ⟨working, isThere, space⟩
  | failed announced working gone =>
      simp only [Dispatch.step?, announced]
      exact if_pos ⟨working, gone⟩
  | finished idle ended => exact if_pos ⟨idle, ended⟩

theorem working_of_isIdle (idle : dispatch.isIdle = true) :
    dispatch.stage = .working ∧ dispatch.paths = [] ∧ dispatch.found = [] := by
  simp only [isIdle, Bool.and_eq_true, decide_eq_true_eq, List.isEmpty_iff] at idle
  exact ⟨idle.1.1, idle.1.2, idle.2⟩

inductive Ends (dispatch : Dispatch) (isOpen : Receiver → Bool) : WatchStage → Prop
  | finished : dispatch.isOver = true → Ends dispatch isOpen .finished
  | failed {receiver} : isOpen receiver = false → Ends dispatch isOpen (.failed receiver)

structure Keeps (isOpen : Receiver → Bool) (dispatch next : Dispatch) : Prop where
  classifier : next.classifier = dispatch.classifier
  isStopping : dispatch.isStopping = true → next.isStopping = true
  stage : next.stage = dispatch.stage ∨ dispatch.stage = .working ∧ Ends dispatch isOpen next.stage

theorem Happens.keeps {next : Dispatch × List LogEntry}
    (happens : Happens dispatch sourceDir isOpen action next) : Keeps isOpen dispatch next.1 := by
  cases happens with
  | noticed | cutOff | taken | classified | announced | sent => exact ⟨rfl, id, .inl rfl⟩
  | told => exact ⟨rfl, fun _ => rfl, .inl rfl⟩
  | failed _ working gone => exact ⟨rfl, id, .inr ⟨working, .failed gone⟩⟩
  | finished idle ended =>
      exact ⟨rfl, id, .inr ⟨(working_of_isIdle idle).1, .finished ended⟩⟩

theorem admitted_of_admit? {receiver : Receiver} {input : LoopInput} {next : Dispatch}
    (possible : dispatch.admit? receiver input = some next) :
    next = dispatch ∧ (∀ change, input ≠ .change change) ∨
      ∃ change rest, input = .change change ∧ dispatch.waiting receiver = change :: rest ∧
        next = dispatch.setWaiting receiver rest := by
  cases input with
  | clock => simp [admit?] at possible
  | change change =>
      simp only [admit?] at possible
      split at possible
      · rename_i waits
        simp only [Option.ite_none_right_eq_some] at possible
        obtain ⟨rfl, taken⟩ := possible
        exact .inr ⟨_, _, rfl, waits, (Option.some.inj taken).symm⟩
      · simp at possible
  | stop =>
      simp only [admit?, Option.ite_none_right_eq_some] at possible
      exact .inl ⟨(Option.some.inj possible.2).symm, nofun⟩
  | nothing => exact .inl ⟨(Option.some.inj possible).symm, nofun⟩

theorem eq_of_admit? {receiver : Receiver} {input : LoopInput} {next : Dispatch}
    (possible : dispatch.admit? receiver input = some next)
    (other : ∀ change, input ≠ .change change) : next = dispatch := by
  rcases admitted_of_admit? possible with ⟨same, -⟩ | ⟨change, -, taken, -⟩
  · exact same
  · exact absurd taken (other change)

theorem keeps_of_admit? {receiver : Receiver} {input : LoopInput} {next : Dispatch}
    (possible : dispatch.admit? receiver input = some next) :
    next.classifier = dispatch.classifier ∧ next.isStopping = dispatch.isStopping ∧
      next.stage = dispatch.stage := by
  rcases admitted_of_admit? possible with ⟨rfl, -⟩ | ⟨change, rest, -, -, rfl⟩ <;>
    exact ⟨rfl, rfl, rfl⟩

def steps? (dispatch : Dispatch) (sourceDir : Option Path) (isOpen : Receiver → Bool) :
    List DispatchAction → Option (Dispatch × List LogEntry)
  | [] => some (dispatch, [])
  | action :: rest =>
    (dispatch.step? sourceDir isOpen action).bind fun (next, log) =>
      (next.steps? sourceDir isOpen rest).map fun (last, more) => (last, log ++ more)

theorem steps?_cons {middle last : Dispatch} {log more : List LogEntry}
    {rest : List DispatchAction}
    (first : Happens dispatch sourceDir isOpen action (middle, log))
    (others : middle.steps? sourceDir isOpen rest = some (last, more)) :
    dispatch.steps? sourceDir isOpen (action :: rest) = some (last, log ++ more) := by
  simp only [steps?, first.step?, Option.bind_some, others, Option.map_some]

theorem steps?_append {middle last : Dispatch} {log more : List LogEntry}
    {early late : List DispatchAction}
    (first : dispatch.steps? sourceDir isOpen early = some (middle, log))
    (second : middle.steps? sourceDir isOpen late = some (last, more)) :
    dispatch.steps? sourceDir isOpen (early ++ late) = some (last, log ++ more) := by
  induction early generalizing dispatch log with
  | nil =>
      obtain ⟨rfl, rfl⟩ := Prod.mk.inj (Option.some.inj first)
      exact second
  | cons action rest ih =>
      rw [steps?] at first
      obtain ⟨⟨next, entries⟩, moved, others⟩ := Option.bind_eq_some_iff.mp first
      obtain ⟨⟨final, later⟩, reached, same⟩ := Option.map_eq_some_iff.mp others
      obtain ⟨rfl, rfl⟩ := Prod.mk.inj same
      rw [List.cons_append, List.append_assoc]
      exact steps?_cons (happens_of_step? moved) (ih reached)

theorem steps?_classify {paths : List Path} (working : dispatch.stage = .working)
    (looking : dispatch.paths = paths) :
    dispatch.steps? sourceDir isOpen (List.replicate paths.length .classify) =
      some ({ dispatch with
        paths := []
        found := dispatch.found ++ paths.filterMap (dispatch.knowing sourceDir).classify }, []) := by
  induction paths generalizing dispatch with
  | nil =>
      rw [List.length_nil, List.replicate_zero, steps?, List.filterMap_nil, List.append_nil,
        ← looking]
  | cons path rest ih =>
      simp only [List.length_cons, List.replicate_succ, steps?, step?, working, looking,
        Option.bind_some]
      rw [ih rfl rfl]
      simp only [Option.map_some, knowing, List.append_assoc, List.nil_append]
      cases found : ({ dispatch.classifier with sourceDir } : Classifier).classify path <;>
        simp [found]

theorem mem_classified {classifier : Classifier} {notices : List Notice} {change : Change} :
    change ∈ (changedPaths notices).filterMap classifier.classify ↔
      ∃ notice ∈ notices, classifier.affects notice change = true := by
  simp only [changedPaths, List.mem_filterMap, List.mem_flatMap, List.mem_filter,
    Classifier.affects, Bool.and_eq_true, List.any_eq_true, decide_eq_true_eq]
  constructor
  · rintro ⟨path, ⟨notice, ⟨member, changed⟩, among⟩, classified⟩
    exact ⟨notice, member, changed, path, among, classified⟩
  · rintro ⟨notice, member, changed, path, among, classified⟩
    exact ⟨path, ⟨notice, ⟨member, changed⟩, among⟩, classified⟩

/-- Once a batch has been looked at, with the source directory the same all the time, what is to be
passed on is what the batch affects. -/
theorem pending_eq_collect {notices : List Notice} {classifier : Classifier}
    (found : dispatch.found = (changedPaths notices).filterMap classifier.classify) :
    dispatch.pending = classifier.collect notices := by
  refine List.filter_congr fun change _ => ?_
  rw [found, Bool.eq_iff_iff, decide_eq_true_eq, mem_classified, List.any_eq_true]

theorem pending_nodup : dispatch.pending.Nodup :=
  List.Nodup.filter _ (by decide)

theorem found_of_pending (none_pending : dispatch.pending = []) : dispatch.found = [] := by
  rw [pending, List.filter_eq_nil_iff] at none_pending
  refine List.eq_nil_iff_forall_not_mem.mpr fun change member => ?_
  have every : change ∈ Change.all := by cases change <;> decide
  exact none_pending change every (by simpa using member)

theorem pending_sent {change : Change} {rest : List Change}
    (pending : dispatch.pending = change :: rest) : (dispatch.sent change).pending = rest := by
  have without : (dispatch.sent change).pending =
      dispatch.pending.filter fun other => other ≠ change := by
    simp only [Dispatch.pending, sent, List.filter_filter, List.mem_filter]
    refine List.filter_congr fun other _ => ?_
    simp [and_comm]
  have distinct : change ∉ rest :=
    (List.nodup_cons.mp (pending ▸ dispatch.pending_nodup)).1
  rw [without, pending, List.filter_cons_of_neg (by simp), List.filter_eq_self]
  intro other member
  simp [ne_of_mem_of_not_mem member distinct]

def deliverySteps (delivery : Delivery) : List DispatchAction :=
  delivery.delivered.flatMap (fun _ => [.announce, .send]) ++
    if delivery.isComplete then [] else [.announce, .fail]

theorem next?_of_pending {change : Change} {rest : List Change}
    (pending : dispatch.pending = change :: rest) (working : dispatch.stage = .working)
    (looked : dispatch.paths = []) (free : dispatch.announced = none) :
    dispatch.next? = some change := by
  rw [next?, if_pos ⟨working, looked, free⟩, pending, List.head?_cons]

theorem sent_waiting (dispatch : Dispatch) (change : Change) (receiver : Receiver) :
    (dispatch.sent change).waiting receiver =
      dispatch.waiting receiver ++ [change].filter (Change.isFor receiver) := by
  by_cases same : receiver = change.receiver
  · simp [sent, setWaiting, Change.isFor, same]
  · simp [sent, setWaiting, Change.isFor, same, Ne.symm same]

theorem steps?_route {changes : List Change} (pending : dispatch.pending = changes)
    (working : dispatch.stage = .working) (looked : dispatch.paths = [])
    (free : dispatch.announced = none)
    (room : ∀ receiver, (dispatch.waiting receiver).length + changes.length ≤ changeCapacity) :
    ∃ after, dispatch.steps? sourceDir isOpen (deliverySteps (route isOpen changes)) =
        some (after, (route isOpen changes).log) ∧
      after.notices = dispatch.notices ∧ after.isIdle = (route isOpen changes).isComplete ∧
      ∀ receiver, after.waiting receiver = dispatch.waiting receiver ++
        (route isOpen changes).delivered.filter (Change.isFor receiver) := by
  induction changes generalizing dispatch with
  | nil =>
      refine ⟨dispatch, rfl, rfl, ?_, ?_⟩
      · simp [isIdle, working, looked, found_of_pending pending, route]
      · simp [route]
  | cons change rest ih =>
      simp only [List.length_cons] at room
      have announces : Happens dispatch sourceDir isOpen .announce _ :=
        .announced (next?_of_pending pending working looked free)
      by_cases isThere : isOpen change.receiver = true
      · have space : dispatch.isFull change.receiver = false := by
          have few := room change.receiver
          rw [isFull, decide_eq_false_iff_not]
          omega
        have still (receiver : Receiver) :
            ((dispatch.sent change).waiting receiver).length + rest.length ≤ changeCapacity := by
          have few := room receiver
          have one := List.length_filter_le (Change.isFor receiver) [change]
          rw [List.length_singleton] at one
          rw [sent_waiting, List.length_append]
          omega
        obtain ⟨after, steps, notices, idle, waiting⟩ :=
          ih (pending_sent pending) working looked rfl still
        have sends :=
          steps?_cons announces (steps?_cons (.sent rfl working isThere space) steps)
        refine ⟨after, ?_, notices, ?_, ?_⟩
        · simpa [deliverySteps, route, isThere] using sends
        · simpa [route, isThere] using idle
        · intro receiver
          simp only [route, isThere, if_true]
          rw [waiting, sent_waiting, List.append_assoc, ← List.filter_append,
            List.singleton_append]
      · have gone : isOpen change.receiver = false := eq_false_of_ne_true isThere
        have fails : Happens { dispatch with announced := some change } sourceDir isOpen .fail _ :=
          .failed rfl working gone
        refine ⟨{ dispatch with announced := some change, stage := .failed change.receiver }, ?_, rfl,
          ?_, ?_⟩
        · simp only [deliverySteps, route, gone, Bool.false_eq_true, if_false, List.flatMap_nil,
            List.nil_append]
          exact steps?_cons announces (steps?_cons fails rfl)
        · simp [isIdle, route, gone]
        · simp [route, gone]

theorem steps?_batch {count : Nat} (idle : dispatch.isIdle = true)
    (free : dispatch.announced = none) (going : dispatch.isStopping = false) (positive : 0 < count)
    (enough : count ≤ dispatch.notices.length)
    (room : ∀ receiver, (dispatch.waiting receiver).length + Change.all.length ≤ changeCapacity) :
    let batch := dispatch.notices.take count
    let delivery := route isOpen ((dispatch.knowing sourceDir).collect batch)
    ∃ after, dispatch.steps? sourceDir isOpen
        (.take count :: List.replicate (changedPaths batch).length .classify ++
          deliverySteps delivery) = some (after, delivery.log) ∧
      after.notices = dispatch.notices.drop count ∧ after.isIdle = delivery.isComplete ∧
      ∀ receiver, after.waiting receiver =
        dispatch.waiting receiver ++ delivery.delivered.filter (Change.isFor receiver) := by
  intro batch delivery
  obtain ⟨working, -, nothing⟩ := working_of_isIdle idle
  have looks := @steps?_classify (dispatch.taken count) sourceDir isOpen _ working rfl
  have pending : ({ dispatch.taken count with
      paths := []
      found := (dispatch.taken count).found ++
        (changedPaths batch).filterMap (dispatch.knowing sourceDir).classify } : Dispatch).pending =
        (dispatch.knowing sourceDir).collect batch := by
    refine pending_eq_collect ?_
    simp [taken, nothing]
  have few (receiver : Receiver) : (dispatch.waiting receiver).length +
      ((dispatch.knowing sourceDir).collect batch).length ≤ changeCapacity := by
    have most : ((dispatch.knowing sourceDir).collect batch).length ≤ Change.all.length :=
      List.length_filter_le ..
    have space := room receiver
    omega
  obtain ⟨after, passes, notices, isIdle, waiting⟩ :=
    @steps?_route _ sourceDir isOpen _ pending working rfl free few
  refine ⟨after, ?_, notices, isIdle, waiting⟩
  exact steps?_cons (.taken idle going positive enough) (steps?_append looks passes)

end Dispatch

end BuildWatch

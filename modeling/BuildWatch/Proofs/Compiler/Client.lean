import BuildWatch.Compiler.Client
import BuildWatch.Proofs.Run

/-!
Any number of callers share one compiler. They take their turns in any order, others come and some
are cancelled at any moment, and a use of the compiler ends whenever and however it does. No two
uses overlap. A caller goes through its stages in one direction, and at each stage it is known
whether it has reached the compiler: one that was cancelled before it did never does, and one that
did is left with what its own use came to.
-/

namespace BuildWatch

/-- Can a use of the compiler for a job end in this way? -/
def ClientUse.fits : ClientUse → ClientJob → Bool
  | answered _, .compile _ => true
  | closed, .close => true
  | crashed _, _ => true
  | _, _ => false

inductive ClientEvent where
  | began (caller : Nat) (job : ClientJob)
  | ended (caller : Nat) (use : ClientUse)

def ClientEvent.caller : ClientEvent → Nat
  | began caller _ | ended caller _ => caller

inductive ClientAction where
  | submit (job : ClientJob) (isCancelled : Bool)
  | cancel (caller : Nat)
  | check (caller : Nat)
  | acquire (caller : Nat)
  | proceed (caller : Nat)
  | finish (caller : Nat) (use : ClientUse)

/-- The caller that takes a turn. -/
def ClientAction.turn? : ClientAction → Option Nat
  | submit .. | cancel _ => none
  | check caller | acquire caller | proceed caller | finish caller _ => some caller

def Client.step? (client : Client) : ClientAction → Option (Client × List ClientEvent)
  | .submit job isCancelled => some (client.submit job isCancelled, [])
  | .cancel caller => some (client.cancel caller, [])
  | .check caller =>
    match client.calls[caller]? with
    | some ⟨_, _, .arriving⟩ => some (client.check caller, [])
    | _ => none
  | .acquire caller =>
    match client.calls[caller]? with
    | some ⟨_, _, .asking⟩ => some (client.acquire caller, [])
    | _ => none
  | .proceed caller =>
    match client.calls[caller]? with
    | some ⟨job, isCancelled, .lent⟩ =>
      some (client.proceed caller,
        if ClientCall.isUnwanted ⟨job, isCancelled, .lent⟩ then [] else [.began caller job])
    | _ => none
  | .finish caller use =>
    match client.calls[caller]? with
    | some ⟨job, _, .using⟩ =>
      if use.fits job then some (client.finish caller use, [.ended caller use]) else none
    | _ => none

def Client.process : Process Client ClientAction (List ClientEvent) :=
  ⟨fun client => (client, []), Client.step?⟩

abbrev ClientMove := Move Client ClientAction (List ClientEvent)

def eventsIn (moves : List ClientMove) : List ClientEvent := moves.flatMap Move.output

def eventsOf (caller : Nat) (events : List ClientEvent) : List ClientEvent :=
  events.filter fun event => event.caller = caller

def turnsOf (caller : Nat) (moves : List ClientMove) : Nat :=
  moves.countP fun move => move.action.bind ClientAction.turn? = some caller

@[simp] theorem eventsIn_append_singleton (moves : List ClientMove) (move : ClientMove) :
    eventsIn (moves ++ [move]) = eventsIn moves ++ move.output := by
  simp [eventsIn]

theorem turnsOf_append_singleton (caller : Nat) (moves : List ClientMove) (move : ClientMove) :
    turnsOf caller (moves ++ [move]) =
      turnsOf caller moves +
        if move.action.bind ClientAction.turn? = some caller then 1 else 0 := by
  simp [turnsOf, List.countP_append, List.countP_singleton]

@[simp] theorem eventsOf_append (caller : Nat) (earlier later : List ClientEvent) :
    eventsOf caller (earlier ++ later) = eventsOf caller earlier ++ eventsOf caller later :=
  List.filter_append ..

theorem eventsOf_of_ne {caller : Nat} {event : ClientEvent} (other : event.caller ≠ caller) :
    eventsOf caller [event] = [] := by
  simp [eventsOf, other]

theorem eventsOf_of_eq {caller : Nat} {event : ClientEvent} (own : event.caller = caller) :
    eventsOf caller [event] = [event] := by
  simp [eventsOf, own]

/-- Uses of the compiler one after the other, and the caller whose use has not ended. -/
inductive Serial : List ClientEvent → Option Nat → Prop
  | nothing : Serial [] none
  | began {events caller job} : Serial events none →
      Serial (events ++ [.began caller job]) (some caller)
  | ended {events caller use} : Serial events (some caller) →
      Serial (events ++ [.ended caller use]) none

namespace CallStage

def isBefore : CallStage → Bool
  | arriving | asking | waiting | lent => true
  | .using | done _ => false

def hasCompiler : CallStage → Bool
  | lent | .using => true
  | arriving | asking | waiting | done _ => false

def isWaiting : CallStage → Bool
  | waiting => true
  | arriving | asking | lent | .using | done _ => false

def isUsing : CallStage → Bool
  | .using => true
  | arriving | asking | waiting | lent | done _ => false

end CallStage

abbrev ClientResult.cancelled : ClientResult := .compiled (.error .cancelled)

namespace Client

inductive Steps (client : Client) : ClientAction → Client → List ClientEvent → Prop
  | submitted {job isCancelled} :
      Steps client (.submit job isCancelled) (client.submit job isCancelled) []
  | cancelled {caller} : Steps client (.cancel caller) (client.cancel caller) []
  | refused {caller request} :
      client.calls[caller]? = some ⟨.compile request, true, .arriving⟩ →
      Steps client (.check caller) (client.setStage caller (.done .cancelled)) []
  | checked {caller job isCancelled} :
      client.calls[caller]? = some ⟨job, isCancelled, .arriving⟩ →
      Steps client (.check caller) (client.setStage caller .asking) []
  | queued {caller job isCancelled holder} :
      client.calls[caller]? = some ⟨job, isCancelled, .asking⟩ → client.holder = some holder →
      Steps client (.acquire caller)
        ({ client with queue := client.queue ++ [caller] }.setStage caller .waiting) []
  | acquired {caller job isCancelled} :
      client.calls[caller]? = some ⟨job, isCancelled, .asking⟩ → client.holder = none →
      Steps client (.acquire caller)
        ({ client with holder := some caller }.setStage caller .lent) []
  | withdrew {caller request} :
      client.calls[caller]? = some ⟨.compile request, true, .lent⟩ →
      Steps client (.proceed caller) (client.setStage caller (.done .cancelled)).release []
  | began {caller job isCancelled} :
      client.calls[caller]? = some ⟨job, isCancelled, .lent⟩ →
      ClientCall.isUnwanted ⟨job, isCancelled, .lent⟩ = false →
      Steps client (.proceed caller) (client.setStage caller .using) [.began caller job]
  | ended {caller job isCancelled use} :
      client.calls[caller]? = some ⟨job, isCancelled, .using⟩ → use.fits job = true →
      Steps client (.finish caller use) (client.setStage caller (.done use.result)).release
        [.ended caller use]

inductive CallStep (caller : Nat) :
    ClientCall → ClientAction → List ClientEvent → ClientCall → Prop
  | kept {call action} : action.turn? ≠ some caller → CallStep caller call action [] call
  | cancelled {job isCancelled stage} :
      CallStep caller ⟨job, isCancelled, stage⟩ (.cancel caller) [] ⟨job, true, stage⟩
  | lent {job isCancelled action} : action.turn? ≠ some caller →
      CallStep caller ⟨job, isCancelled, .waiting⟩ action [] ⟨job, isCancelled, .lent⟩
  | refused {request} :
      CallStep caller ⟨.compile request, true, .arriving⟩ (.check caller) []
        ⟨.compile request, true, .done .cancelled⟩
  | checked {job isCancelled} :
      CallStep caller ⟨job, isCancelled, .arriving⟩ (.check caller) [] ⟨job, isCancelled, .asking⟩
  | queued {job isCancelled} :
      CallStep caller ⟨job, isCancelled, .asking⟩ (.acquire caller) [] ⟨job, isCancelled, .waiting⟩
  | acquired {job isCancelled} :
      CallStep caller ⟨job, isCancelled, .asking⟩ (.acquire caller) [] ⟨job, isCancelled, .lent⟩
  | withdrew {request} :
      CallStep caller ⟨.compile request, true, .lent⟩ (.proceed caller) []
        ⟨.compile request, true, .done .cancelled⟩
  | began {job isCancelled} : ClientCall.isUnwanted ⟨job, isCancelled, .lent⟩ = false →
      CallStep caller ⟨job, isCancelled, .lent⟩ (.proceed caller) [.began caller job]
        ⟨job, isCancelled, .using⟩
  | ended {job isCancelled use} : use.fits job = true →
      CallStep caller ⟨job, isCancelled, .using⟩ (.finish caller use) [.ended caller use]
        ⟨job, isCancelled, .done use.result⟩

variable {client : Client} {caller other : Nat} {call : ClientCall} {action : ClientAction}
  {next : Client × List ClientEvent}

theorem getElem?_setStage (client : Client) (caller other : Nat) (stage : CallStage) :
    (client.setStage caller stage).calls[other]? =
      client.calls[other]?.map fun call =>
        if caller = other then { call with stage } else call := by
  rw [setStage, List.getElem?_modify]
  by_cases same : caller = other <;> simp [same]

@[simp] theorem length_setStage (client : Client) (caller : Nat) (stage : CallStage) :
    (client.setStage caller stage).calls.length = client.calls.length :=
  List.length_modify ..

theorem getElem?_submit {job : ClientJob} {isCancelled : Bool}
    (found : (client.submit job isCancelled).calls[caller]? = some call) :
    client.calls[caller]? = some call ∨
      caller = client.calls.length ∧ call = ⟨job, isCancelled, .arriving⟩ := by
  rw [submit, List.getElem?_append] at found
  split at found
  · exact .inl found
  · obtain ⟨single, rfl⟩ := List.getElem?_eq_some_iff.mp found
    simp only [List.length_singleton] at single
    exact .inr ⟨by omega, by simp⟩

theorem getElem?_cancel (client : Client) (caller other : Nat) :
    (client.cancel caller).calls[other]? =
      client.calls[other]?.map fun call =>
        if caller = other then { call with isCancelled := true } else call := by
  rw [cancel, List.getElem?_modify]
  by_cases same : caller = other <;> simp [same]

theorem getElem?_release (client : Client) (other : Nat) :
    client.release.calls[other]? =
      client.calls[other]?.map fun call =>
        if client.queue.head? = some other then { call with stage := .lent } else call := by
  unfold release
  split
  · rename_i empty
    simp [empty]
  · rename_i first rest waiting
    rw [getElem?_setStage, waiting]
    simp

@[simp] theorem setStage_holder (client : Client) (caller : Nat) (stage : CallStage) :
    (client.setStage caller stage).holder = client.holder := rfl

@[simp] theorem setStage_queue (client : Client) (caller : Nat) (stage : CallStage) :
    (client.setStage caller stage).queue = client.queue := rfl

@[simp] theorem length_release (client : Client) :
    client.release.calls.length = client.calls.length := by
  unfold release
  split <;> simp

def Agrees (client : Client) (caller : Nat) (stage : CallStage) : Prop :=
  (stage.hasCompiler = true ↔ client.holder = some caller) ∧
    (stage.isWaiting = true ↔ caller ∈ client.queue)

structure Sound (client : Client) : Prop where
  agrees : ∀ caller call, client.calls[caller]? = some call → client.Agrees caller call.stage
  known : ∀ caller, client.holder = some caller ∨ caller ∈ client.queue →
    caller < client.calls.length
  once : client.queue.Nodup
  free : client.holder = none → client.queue = []

theorem request_of_isUnwanted {job : ClientJob} {isCancelled : Bool} {stage : CallStage}
    (unwanted : ClientCall.isUnwanted ⟨job, isCancelled, stage⟩ = true) :
    (∃ request, job = .compile request) ∧ isCancelled = true := by
  cases job with
  | compile request => exact ⟨⟨request, rfl⟩, unwanted⟩
  | close => simp [ClientCall.isUnwanted] at unwanted

theorem steps_of_step? (possible : client.step? action = some next) :
    Steps client action next.1 next.2 := by
  cases action with
  | submit job isCancelled =>
      obtain rfl := Option.some.inj possible
      exact .submitted
  | cancel caller =>
      obtain rfl := Option.some.inj possible
      exact .cancelled
  | check caller =>
      simp only [step?] at possible
      split at possible
      · rename_i job isCancelled found
        obtain rfl := Option.some.inj possible
        simp only [check, found]
        split
        · rename_i unwanted
          obtain ⟨⟨request, rfl⟩, rfl⟩ := request_of_isUnwanted unwanted
          exact .refused found
        · exact .checked found
      · simp at possible
  | acquire caller =>
      simp only [step?] at possible
      split at possible
      · rename_i found
        obtain rfl := Option.some.inj possible
        simp only [acquire, found]
        split
        · rename_i taken
          obtain ⟨holder, taken⟩ := Option.isSome_iff_exists.mp taken
          exact .queued found taken
        · rename_i free
          exact .acquired found (by simpa using free)
      · simp at possible
  | proceed caller =>
      simp only [step?] at possible
      split at possible
      · rename_i job isCancelled found
        obtain rfl := Option.some.inj possible
        simp only [proceed, found]
        split
        · rename_i unwanted
          obtain ⟨⟨request, rfl⟩, rfl⟩ := request_of_isUnwanted unwanted
          exact .withdrew found
        · rename_i wanted
          exact .began found (Bool.not_eq_true _ ▸ wanted)
      · simp at possible
  | finish caller use =>
      simp only [step?] at possible
      split at possible
      · rename_i found
        split at possible
        · obtain rfl := Option.some.inj possible
          simp only [finish, found]
          exact .ended found ‹_›
        · simp at possible
      · simp at possible

namespace Sound

theorem agrees_setStage {stage : CallStage}
    (found : (client.setStage caller stage).calls[other]? = some call)
    (own : client.Agrees caller stage)
    (others : ∀ earlier, other ≠ caller → client.calls[other]? = some earlier →
      client.Agrees other earlier.stage) :
    (client.setStage caller stage).Agrees other call.stage := by
  rw [getElem?_setStage] at found
  obtain ⟨earlier, before, rfl⟩ := Option.map_eq_some_iff.mp found
  by_cases same : caller = other
  · subst other
    simpa [Agrees] using own
  · simpa [Agrees, same] using others earlier (Ne.symm same) before

theorem idle : Client.idle.Sound :=
  ⟨by simp [Client.idle], by simp [Client.idle], List.nodup_nil, fun _ => rfl⟩

theorem submit (sound : client.Sound) (job : ClientJob) (isCancelled : Bool) :
    (client.submit job isCancelled).Sound := by
  refine ⟨?_, ?_, sound.once, sound.free⟩
  · intro caller call found
    rcases getElem?_submit found with before | ⟨rfl, rfl⟩
    · exact sound.agrees caller call before
    · constructor
      · refine iff_of_false (by simp [CallStage.hasCompiler]) fun holds => ?_
        exact Nat.lt_irrefl _ (sound.known _ (.inl holds))
      · refine iff_of_false (by simp [CallStage.isWaiting]) fun waits => ?_
        exact Nat.lt_irrefl _ (sound.known _ (.inr waits))
  · intro caller known
    exact (sound.known caller known).trans_le (by simp [Client.submit])

theorem cancel (sound : client.Sound) (caller : Nat) : (client.cancel caller).Sound := by
  refine ⟨?_, ?_, sound.once, sound.free⟩
  · intro other call found
    rw [getElem?_cancel] at found
    obtain ⟨earlier, before, rfl⟩ := Option.map_eq_some_iff.mp found
    have agrees := sound.agrees other earlier before
    split <;> exact agrees
  · simpa [Client.cancel] using sound.known

theorem setStage {stage : CallStage} (sound : client.Sound)
    (found : client.calls[caller]? = some call)
    (has : stage.hasCompiler = call.stage.hasCompiler)
    (waiting : stage.isWaiting = call.stage.isWaiting) : (client.setStage caller stage).Sound := by
  have own : client.Agrees caller stage := by
    rw [Agrees, has, waiting]
    exact sound.agrees caller call found
  refine ⟨?_, by simpa using sound.known, sound.once, sound.free⟩
  intro other call after
  exact agrees_setStage after own fun earlier _ => sound.agrees other earlier

theorem queued {holder : Nat} (sound : client.Sound) (found : client.calls[caller]? = some call)
    (asking : call.stage = .asking) (taken : client.holder = some holder) :
    ({ client with queue := client.queue ++ [caller] }.setStage caller .waiting).Sound := by
  have agrees := sound.agrees caller call found
  simp only [Agrees, asking, CallStage.hasCompiler, CallStage.isWaiting, Bool.false_eq_true,
    false_iff] at agrees
  obtain ⟨empty_handed, outside⟩ := agrees
  refine ⟨?_, ?_, ?_, ?_⟩
  · intro other call after
    refine agrees_setStage after ?_ fun earlier different before => ?_
    · simpa [Agrees, CallStage.hasCompiler, CallStage.isWaiting] using empty_handed
    · simpa [Agrees, different] using sound.agrees other earlier before
  · intro other known
    rw [length_setStage]
    rcases known with holds | waits
    · exact sound.known other (.inl holds)
    · rcases List.mem_append.mp waits with among | last
      · exact sound.known other (.inr among)
      · obtain rfl := List.mem_singleton.mp last
        exact (List.getElem?_eq_some_iff.mp found).1
  · refine List.nodup_append.mpr ⟨sound.once, List.nodup_singleton caller, ?_⟩
    simpa using fun other among => ne_of_mem_of_not_mem among outside
  · simp [taken]

theorem acquired (sound : client.Sound) (found : client.calls[caller]? = some call)
    (free : client.holder = none) :
    ({ client with holder := some caller }.setStage caller .lent).Sound := by
  have nobody := sound.free free
  refine ⟨?_, ?_, sound.once, by simp⟩
  · intro other call after
    refine agrees_setStage after ?_ fun earlier different before => ?_
    · simp [Agrees, nobody, CallStage.hasCompiler, CallStage.isWaiting]
    · simpa [Agrees, free, Ne.symm different] using sound.agrees other earlier before
  · intro other known
    rw [length_setStage]
    rcases known with holds | waits
    · obtain rfl := Option.some.inj holds
      exact (List.getElem?_eq_some_iff.mp found).1
    · exact sound.known other (.inr waits)

theorem left {result : ClientResult} (sound : client.Sound)
    (found : client.calls[caller]? = some call) (has : call.stage.hasCompiler = true) :
    (client.setStage caller (.done result)).release.Sound := by
  obtain ⟨holds, waits⟩ := sound.agrees caller call found
  replace holds := holds.mp has
  have outside : caller ∉ client.queue := by
    rw [← waits]
    cases stage : call.stage <;> simp [stage, CallStage.hasCompiler, CallStage.isWaiting] at has ⊢
  have once := sound.once
  have known := fun other (among : other ∈ client.queue) => sound.known other (.inr among)
  have others : ∀ other call, other ≠ caller → client.calls[other]? = some call →
      call.stage.hasCompiler = false ∧ (call.stage.isWaiting = true ↔ other ∈ client.queue) := by
    intro other call different before
    simpa [Agrees, holds, Ne.symm different] using sound.agrees other call before
  unfold release
  rw [setStage_queue]
  split
  · rename_i empty
    refine ⟨?_, by simp [empty], once, fun _ => empty⟩
    intro other call after
    refine @agrees_setStage { client with holder := none } _ _ _ _ after ?_ ?_
    · simpa [Agrees, CallStage.hasCompiler, CallStage.isWaiting] using outside
    · intro earlier different before
      simpa [Agrees] using others other earlier different before
  · rename_i next rest queue
    rw [queue] at outside once known others
    obtain ⟨absent, once⟩ := List.nodup_cons.mp once
    obtain ⟨different, outside⟩ : caller ≠ next ∧ caller ∉ rest := by simpa using outside
    refine ⟨?_, ?_, once, by simp⟩
    · intro other call after
      refine agrees_setStage after ?_ ?_
      · simpa [Agrees, CallStage.hasCompiler, CallStage.isWaiting] using absent
      · intro between later found
        refine @agrees_setStage { client with holder := some next, queue := rest } _ _ _ _ found
          ?_ ?_
        · simpa [Agrees, CallStage.hasCompiler, CallStage.isWaiting] using
            ⟨Ne.symm different, outside⟩
        · intro earlier apart before
          simpa [Agrees, later, Ne.symm later] using others other earlier apart before
    · intro other either
      have among : other ∈ next :: rest := by simpa [eq_comm] using either
      simpa using known other among

theorem step (sound : client.Sound) (possible : client.step? action = some next) :
    next.1.Sound := by
  generalize next.1 = later, next.2 = events, steps_of_step? possible = steps
  cases steps with
  | submitted => exact sound.submit ..
  | cancelled => exact sound.cancel _
  | refused found | checked found | began found => exact sound.setStage found rfl rfl
  | queued found taken => exact sound.queued found rfl taken
  | acquired found free => exact sound.acquired found free
  | withdrew found | ended found => exact sound.left found rfl

end Sound

theorem setStage_cases {actor : Nat} {acting : ClientCall} {stage : CallStage}
    (acts : client.calls[actor]? = some acting)
    (found : (client.setStage actor stage).calls[caller]? = some call) :
    (actor = caller ∧ call = { acting with stage }) ∨
      (some actor ≠ some caller ∧ client.calls[caller]? = some call) := by
  rw [getElem?_setStage] at found
  obtain ⟨earlier, before, rfl⟩ := Option.map_eq_some_iff.mp found
  by_cases same : actor = caller
  · subst actor
    obtain rfl := Option.some.inj (acts.symm.trans before)
    simp
  · simpa [same] using before

theorem left_cases {actor : Nat} {acting : ClientCall} {result : ClientResult}
    (sound : client.Sound) (acts : client.calls[actor]? = some acting)
    (has : acting.stage.hasCompiler = true)
    (found : (client.setStage actor (.done result)).release.calls[caller]? = some call) :
    (actor = caller ∧ call = { acting with stage := .done result }) ∨
      some actor ≠ some caller ∧ (client.calls[caller]? = some call ∨
        client.calls[caller]? = some { call with stage := .waiting } ∧ call.stage = .lent) := by
  rw [getElem?_release, setStage_queue] at found
  obtain ⟨between, first, rfl⟩ := Option.map_eq_some_iff.mp found
  have waits (earlier : ClientCall) (before : client.calls[caller]? = some earlier)
      (first : client.queue.head? = some caller) : earlier.stage = .waiting := by
    have waiting := (sound.agrees caller earlier before).2.mpr (List.mem_of_mem_head? first)
    cases stage : earlier.stage <;> simp [stage, CallStage.isWaiting] at waiting ⊢
  rcases setStage_cases acts first with ⟨rfl, rfl⟩ | ⟨apart, before⟩
  · refine .inl ⟨rfl, if_neg fun first => ?_⟩
    simp [waits acting acts first, CallStage.hasCompiler] at has
  · refine .inr ⟨apart, ?_⟩
    split
    · rename_i first
      have same : { between with stage := .waiting } = between := by
        rw [← waits between before first]
      exact .inr ⟨before.trans (congrArg some same.symm), rfl⟩
    · exact .inl before

theorem call_cases (sound : client.Sound) (possible : client.step? action = some next)
    (found : next.1.calls[caller]? = some call) :
    (client.calls[caller]? = none ∧ call.stage = .arriving ∧ eventsOf caller next.2 = [] ∧
      action.turn? ≠ some caller) ∨
    ∃ earlier, client.calls[caller]? = some earlier ∧
      CallStep caller earlier action (eventsOf caller next.2) call := by
  generalize next.1 = later, next.2 = events, steps_of_step? possible = steps at found
  cases steps with
  | submitted =>
      rcases getElem?_submit found with before | ⟨rfl, rfl⟩
      · exact .inr ⟨call, before, .kept nofun⟩
      · exact .inl ⟨by simp, rfl, rfl, nofun⟩
  | @cancelled actor =>
      rw [getElem?_cancel] at found
      obtain ⟨earlier, before, rfl⟩ := Option.map_eq_some_iff.mp found
      refine .inr ⟨earlier, before, ?_⟩
      split
      · subst actor
        exact .cancelled
      · exact .kept nofun
  | refused acts | checked acts | queued acts | acquired acts =>
      rcases setStage_cases acts found with ⟨rfl, rfl⟩ | ⟨apart, before⟩
      · exact .inr ⟨_, acts, by constructor⟩
      · exact .inr ⟨call, before, .kept apart⟩
  | began acts wanted =>
      rcases setStage_cases acts found with ⟨rfl, rfl⟩ | ⟨apart, before⟩
      · refine .inr ⟨_, acts, ?_⟩
        rw [eventsOf_of_eq]
        · exact .began wanted
        · rfl
      · refine .inr ⟨call, before, ?_⟩
        rw [eventsOf_of_ne]
        · exact .kept apart
        · exact mt (congrArg some) apart
  | withdrew acts =>
      rcases left_cases sound acts rfl found with ⟨rfl, rfl⟩ | ⟨apart, before | ⟨before, lent⟩⟩
      · exact .inr ⟨_, acts, .withdrew⟩
      · exact .inr ⟨call, before, .kept apart⟩
      · obtain ⟨job, isCancelled, stage⟩ := call
        obtain rfl : stage = .lent := lent
        exact .inr ⟨_, before, .lent apart⟩
  | ended acts fits =>
      rcases left_cases sound acts rfl found with ⟨rfl, rfl⟩ | ⟨apart, before | ⟨before, lent⟩⟩
      · refine .inr ⟨_, acts, ?_⟩
        rw [eventsOf_of_eq]
        · exact .ended fits
        · rfl
      · refine .inr ⟨call, before, ?_⟩
        rw [eventsOf_of_ne]
        · exact .kept apart
        · exact mt (congrArg some) apart
      · obtain ⟨job, isCancelled, stage⟩ := call
        obtain rfl : stage = .lent := lent
        refine .inr ⟨_, before, ?_⟩
        rw [eventsOf_of_ne]
        · exact .lent apart
        · exact mt (congrArg some) apart

end Client

end BuildWatch

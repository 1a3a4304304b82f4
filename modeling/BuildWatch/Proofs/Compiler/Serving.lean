import BuildWatch.Proofs.Compiler.Client

/-!
What becomes of the callers of one compiler over a run. The compiler serves one of them at a time,
each caller is left with what its own use came to or was cancelled without one, and nobody is left
behind.
-/

namespace BuildWatch

/-- What a use of the compiler leaves its caller with. -/
inductive ClientUse.Leaves : ClientUse → ClientResult → Prop
  | made {response compiled} : response.finish = .ok compiled →
      Leaves (.answered (.ok response)) (.compiled (.ok compiled))
  | failed {response diagnostics} : response.finish = .error diagnostics →
      Leaves (.answered (.ok response)) (.compiled (.error (.failed diagnostics)))
  | unanswered {error} : Leaves (.answered (.error error)) (.compiled (.error error))
  | closed : Leaves .closed .closed
  | crashed {message} : Leaves (.crashed message) (.crashed message)

theorem ClientUse.leaves_result (use : ClientUse) : use.Leaves use.result := by
  cases use with
  | answered answer =>
      cases answer with
      | ok response =>
          rw [result, conclude]
          cases finished : response.finish with
          | ok compiled => exact .made finished
          | error diagnostics => exact .failed finished
      | error error => exact .unanswered
  | closed => exact .closed
  | crashed message => exact .crashed

/-- What the compiler has seen of a caller by the stage to which it has come. -/
inductive ClientCall.Told (caller : Nat) : ClientCall → List ClientEvent → Prop
  | before {call : ClientCall} : call.stage.isBefore = true → Told caller call []
  | inUse {job isCancelled} : Told caller ⟨job, isCancelled, .using⟩ [.began caller job]
  | cancelled {request} : Told caller ⟨.compile request, true, .done .cancelled⟩ []
  | served {job isCancelled use result} : use.fits job = true → use.Leaves result →
      Told caller ⟨job, isCancelled, .done result⟩ [.began caller job, .ended caller use]

def CallStage.turns : CallStage → Nat
  | arriving => 0
  | asking => 1
  | waiting | lent => 2
  | .using => 3
  | done _ => 4

namespace Client

variable {client : Client} {caller : Nat} {call : ClientCall} {action : ClientAction}
  {next : Client × List ClientEvent} {moves earlier later : List ClientMove} {move : ClientMove}

namespace CallStep

variable {before : ClientCall} {own events : List ClientEvent}

theorem told (step : CallStep caller before action own call) (told : before.Told caller events) :
    call.Told caller (events ++ own) := by
  cases step with
  | kept => simpa using told
  | cancelled =>
      rw [List.append_nil]
      cases told with
      | before early => exact .before early
      | inUse => exact .inUse
      | cancelled => exact .cancelled
      | served fits leaves => exact .served fits leaves
  | lent | checked | queued | acquired =>
      cases told with
      | before => exact .before rfl
  | refused | withdrew =>
      cases told with
      | before => exact .cancelled
  | began =>
      cases told with
      | before => exact .inUse
  | @ended _ _ use fits =>
      cases told with
      | before early => simp [CallStage.isBefore] at early
      | inUse => exact .served fits use.leaves_result

theorem turns (step : CallStep caller before action own call) :
    before.stage.turns + (if action.turn? = some caller then 1 else 0) ≤ call.stage.turns := by
  cases step with
  | kept other | lent other => simp [other, CallStage.turns]
  | cancelled => simp [ClientAction.turn?]
  | refused | checked | queued | acquired | withdrew | began | ended =>
      simp [ClientAction.turn?, CallStage.turns]

theorem unwanted (step : CallStep caller before action own call)
    (unwanted : before.isUnwanted = true) (told : before.Told caller []) :
    call.isUnwanted = true ∧ own = [] := by
  cases step with
  | kept | lent | checked | queued | acquired => exact ⟨unwanted, rfl⟩
  | refused | withdrew => exact ⟨rfl, rfl⟩
  | @cancelled job =>
      refine ⟨?_, rfl⟩
      cases job with
      | compile => rfl
      | close => simp [ClientCall.isUnwanted] at unwanted
  | began wanted =>
      rw [wanted] at unwanted
      simp at unwanted
  | ended =>
      cases told with
      | before early => simp [CallStage.isBefore] at early

end CallStep

theorem turn_lt (possible : client.step? action = some next) (turn : action.turn? = some caller) :
    caller < client.calls.length := by
  generalize next.1 = later, next.2 = events, steps_of_step? possible = steps
  cases steps with
  | submitted | cancelled => simp [ClientAction.turn?] at turn
  | refused acts | checked acts | queued acts | acquired acts | withdrew acts | began acts
  | ended acts =>
      obtain rfl := Option.some.inj turn
      exact (List.getElem?_eq_some_iff.mp acts).1

theorem turn_of_event {event : ClientEvent} (possible : client.step? action = some next)
    (member : event ∈ next.2) : action.turn? = some event.caller := by
  generalize next.1 = later, next.2 = events, steps_of_step? possible = steps at member
  cases steps with
  | submitted | cancelled | refused | checked | queued | acquired | withdrew => simp at member
  | began | ended =>
      rw [List.mem_singleton.mp member]
      rfl

theorem length_le_of_step? (possible : client.step? action = some next) :
    client.calls.length ≤ next.1.calls.length := by
  generalize next.1 = later, next.2 = events, steps_of_step? possible = steps
  cases steps with
  | submitted => simp [submit]
  | cancelled => simp [cancel]
  | refused | checked | queued | acquired | began => simp
  | withdrew | ended => simp

theorem run_sound (run : Client.process.Run .idle moves client) : client.Sound := by
  induction run with
  | begin => exact .idle
  | step run possible ih => exact ih.step possible

theorem absent (run : Client.process.Run .idle moves client)
    (absent : client.calls[caller]? = none) :
    eventsOf caller (eventsIn moves) = [] ∧ turnsOf caller moves = 0 := by
  induction run with
  | begin => exact ⟨rfl, rfl⟩
  | @step moves client action next run possible ih =>
      have missing : client.calls.length ≤ caller :=
        (length_le_of_step? possible).trans (List.getElem?_eq_none_iff.mp absent)
      obtain ⟨silent, still⟩ := ih (List.getElem?_eq_none_iff.mpr missing)
      have other : action.turn? ≠ some caller := fun turn =>
        (turn_lt possible turn).not_ge missing
      constructor
      · rw [eventsIn_append_singleton, eventsOf_append, silent, List.nil_append, eventsOf,
          List.filter_eq_nil_iff]
        intro event member own
        rw [turn_of_event possible member] at other
        exact other (congrArg some (of_decide_eq_true own))
      · rw [turnsOf_append_singleton, still, Nat.zero_add]
        exact if_neg other

theorem told (run : Client.process.Run .idle moves client)
    (found : client.calls[caller]? = some call) :
    call.Told caller (eventsOf caller (eventsIn moves)) ∧
      turnsOf caller moves ≤ call.stage.turns := by
  induction run generalizing call with
  | begin => simp [Client.process, Client.idle] at found
  | @step moves client action next run possible ih =>
      rw [eventsIn_append_singleton, eventsOf_append, turnsOf_append_singleton]
      rcases call_cases (run_sound run) possible found with
        ⟨missing, arriving, silent, other⟩ | ⟨before, earlier, step⟩
      · obtain ⟨nothing, none⟩ := absent run missing
        rw [nothing, silent, none]
        exact ⟨.before (by rw [arriving]; rfl), by simp [other]⟩
      · obtain ⟨told, turns⟩ := ih earlier
        exact ⟨step.told told, (Nat.add_le_add_right turns _).trans step.turns⟩

theorem unreached (run : Client.process.Run .idle (earlier ++ move :: later) client)
    (found : move.after.calls[caller]? = some call) (unwanted : call.isUnwanted = true)
    (early : eventsOf caller (eventsIn (earlier ++ [move])) = []) :
    eventsOf caller (eventsIn (earlier ++ move :: later)) = [] := by
  rw [List.append_cons] at run ⊢
  obtain ⟨reached, past⟩ := run.earlierRun (by simp)
  obtain rfl : move.after = reached := by simpa using past.getLast?_after
  suffices ∃ call, client.calls[caller]? = some call ∧ call.isUnwanted = true ∧
      eventsOf caller (eventsIn (earlier ++ [move] ++ later)) = [] by
    obtain ⟨-, -, -, never⟩ := this
    exact never
  refine past.follow (fun between state => ∃ call, state.calls[caller]? = some call ∧
    call.isUnwanted = true ∧ eventsOf caller (eventsIn (earlier ++ [move] ++ between)) = []) run
    ⟨call, found, unwanted, by simpa using early⟩ ?_
  rintro between state action next run ⟨before, found, unwanted, silent⟩ possible
  have inside := (List.getElem?_eq_some_iff.mp found).1.trans_le (length_le_of_step? possible)
  refine ⟨next.1.calls[caller], List.getElem?_eq_getElem inside, ?_⟩
  rw [← List.append_assoc, eventsIn_append_singleton, eventsOf_append, silent, List.nil_append]
  rcases call_cases (run_sound run) possible (List.getElem?_eq_getElem inside) with
    ⟨missing, -⟩ | ⟨same, earlier, step⟩
  · simp [missing] at found
  · obtain rfl := Option.some.inj (found.symm.trans earlier)
    obtain ⟨told, -⟩ := told run found
    rw [silent] at told
    exact step.unwanted unwanted told

theorem jobInUse?_isSome :
    (client.jobInUse? caller).isSome = true ↔
      ∃ call, client.calls[caller]? = some call ∧ call.stage.isUsing = true := by
  unfold jobInUse?
  split
  · rename_i found
    simp [found, CallStage.isUsing]
  · rename_i other
    simp only [Option.isSome_none, Bool.false_eq_true, false_iff, not_exists, not_and]
    rintro ⟨job, isCancelled, stage⟩ found
    cases stage <;> simp [CallStage.isUsing]
    exact other job isCancelled found

theorem CallStep.isUsing {before : ClientCall} (step : CallStep caller before action [] call) :
    call.stage.isUsing = before.stage.isUsing := by
  cases step <;> rfl

theorem jobInUse?_of_silent (sound : client.Sound) (possible : client.step? action = some next)
    (silent : eventsOf caller next.2 = []) :
    (next.1.jobInUse? caller).isSome = (client.jobInUse? caller).isSome := by
  rw [Bool.eq_iff_iff, jobInUse?_isSome, jobInUse?_isSome]
  constructor
  · rintro ⟨call, found, uses⟩
    rcases call_cases sound possible found with ⟨-, arriving, -⟩ | ⟨before, earlier, step⟩
    · simp [arriving, CallStage.isUsing] at uses
    · rw [silent] at step
      exact ⟨before, earlier, step.isUsing ▸ uses⟩
  · rintro ⟨before, earlier, uses⟩
    have inside := (List.getElem?_eq_some_iff.mp earlier).1.trans_le (length_le_of_step? possible)
    refine ⟨next.1.calls[caller], List.getElem?_eq_getElem inside, ?_⟩
    rcases call_cases sound possible (List.getElem?_eq_getElem inside) with
      ⟨missing, -⟩ | ⟨same, found, step⟩
    · simp [missing] at earlier
    · obtain rfl := Option.some.inj (earlier.symm.trans found)
      rw [silent] at step
      exact step.isUsing.trans uses

theorem holder_of_jobInUse? (sound : client.Sound)
    (uses : (client.jobInUse? caller).isSome = true) : client.holder = some caller := by
  obtain ⟨call, found, isUsing⟩ := jobInUse?_isSome.mp uses
  refine (sound.agrees caller call found).1.mp ?_
  cases stage : call.stage <;> simp [stage, CallStage.isUsing, CallStage.hasCompiler] at isUsing ⊢

theorem serial (run : Client.process.Run .idle moves client) :
    ∃ user, Serial (eventsIn moves) user ∧
      ∀ caller, (client.jobInUse? caller).isSome = true ↔ user = some caller := by
  induction run with
  | begin => exact ⟨none, .nothing, by simp [Client.process, Client.idle, jobInUse?]⟩
  | @step moves client action next run possible ih =>
      obtain ⟨user, serial, uses⟩ := ih
      have sound := run_sound run
      have kept (caller : Nat) (silent : eventsOf caller next.2 = []) :
          (next.1.jobInUse? caller).isSome = true ↔ user = some caller := by
        rw [jobInUse?_of_silent sound possible silent]
        exact uses caller
      rw [eventsIn_append_singleton]
      obtain ⟨after, events⟩ := next
      have steps : Steps client action after events := steps_of_step? possible
      cases steps with
      | submitted | cancelled | refused | checked | queued | acquired | withdrew =>
          exact ⟨user, by simpa using serial, fun caller => kept caller rfl⟩
      | @began actor job isCancelled acts =>
          have free : user = none := by
            by_contra taken
            obtain ⟨holder, rfl⟩ := Option.ne_none_iff_exists'.mp taken
            have inUse := (uses holder).mpr rfl
            have holds := holder_of_jobInUse? sound inUse
            rw [(sound.agrees actor _ acts).1.mp rfl] at holds
            obtain rfl := Option.some.inj holds
            simp [jobInUse?, acts] at inUse
          subst free
          refine ⟨some actor, .began serial, fun caller => ?_⟩
          by_cases same : actor = caller
          · subst actor
            simp [jobInUse?, getElem?_setStage, acts]
          · rw [kept caller (eventsOf_of_ne same)]
            simp [same]
      | @ended actor job isCancelled use acts =>
          obtain rfl : user = some actor := (uses actor).mp (by simp [jobInUse?, acts])
          refine ⟨none, .ended serial, fun caller => ?_⟩
          by_cases same : actor = caller
          · subst actor
            refine iff_of_false (fun inUse => ?_) (by simp)
            obtain ⟨call, found, isUsing⟩ := jobInUse?_isSome.mp inUse
            rcases left_cases sound acts rfl found with ⟨-, rfl⟩ | ⟨apart, -⟩
            · simp [CallStage.isUsing] at isUsing
            · exact apart rfl
          · rw [kept caller (eventsOf_of_ne same)]
            simp [same]

theorem isSome_step?_of_stage (found : client.calls[caller]? = some call)
    (going : call.stage.isWaiting = false) :
    (∃ result, call.stage = .done result) ∨
      ∃ action, action.turn? = some caller ∧ (client.step? action).isSome = true := by
  obtain ⟨job, isCancelled, stage⟩ := call
  cases stage with
  | arriving => exact .inr ⟨.check caller, rfl, by simp [step?, found]⟩
  | asking => exact .inr ⟨.acquire caller, rfl, by simp [step?, found]⟩
  | waiting => simp [CallStage.isWaiting] at going
  | lent => exact .inr ⟨.proceed caller, rfl, by simp [step?, found]⟩
  | «using» =>
      refine .inr ⟨.finish caller (.crashed ""), rfl, ?_⟩
      simp [step?, found, ClientUse.fits]
  | done result => exact .inl ⟨result, rfl⟩

theorem not_done_of_step? (possible : client.step? action = some next)
    (turn : action.turn? = some caller) :
    ∃ call ∈ client.calls, ∀ result, call.stage ≠ .done result := by
  generalize next.1 = later, next.2 = events, steps_of_step? possible = steps
  cases steps with
  | submitted | cancelled => simp [ClientAction.turn?] at turn
  | refused acts | checked acts | queued acts | acquired acts | withdrew acts | began acts
  | ended acts => exact ⟨_, List.mem_of_getElem? acts, nofun⟩

theorem halted_iff (sound : client.Sound) :
    (∀ action, action.turn?.isSome = true → client.step? action = none) ↔
      ∀ call ∈ client.calls, ∃ result, call.stage = .done result := by
  constructor
  · intro halted
    have settled (caller : Nat) (call : ClientCall) (found : client.calls[caller]? = some call)
        (going : call.stage.isWaiting = false) : ∃ result, call.stage = .done result := by
      rcases isSome_step?_of_stage found going with done | ⟨action, turn, possible⟩
      · exact done
      · simp [halted action (by simp [turn])] at possible
    intro call member
    obtain ⟨caller, found⟩ := List.mem_iff_getElem?.mp member
    refine settled caller call found (Bool.eq_false_iff.mpr fun waiting => ?_)
    have queued := (sound.agrees caller call found).2.mp waiting
    obtain ⟨holder, holds⟩ := Option.ne_none_iff_exists'.mp fun free =>
      List.ne_nil_of_mem queued (sound.free free)
    have inside := sound.known holder (.inl holds)
    have has := (sound.agrees holder _ (List.getElem?_eq_getElem inside)).1.mpr holds
    have going : client.calls[holder].stage.isWaiting = false := by
      cases stage : client.calls[holder].stage <;>
        simp [stage, CallStage.hasCompiler, CallStage.isWaiting] at has ⊢
    obtain ⟨result, done⟩ := settled holder _ (List.getElem?_eq_getElem inside) going
    simp [done, CallStage.hasCompiler] at has
  · intro done action turns
    obtain ⟨caller, turn⟩ := Option.isSome_iff_exists.mp turns
    by_contra possible
    obtain ⟨next, possible⟩ := Option.ne_none_iff_exists'.mp possible
    obtain ⟨call, member, going⟩ := not_done_of_step? possible turn
    obtain ⟨result, settled⟩ := done call member
    exact going result settled

/-- In whatever order any number of callers take their turns, come and are cancelled: the compiler
serves one at a time. A caller that is done was cancelled and never reached it, or has used it once
for its own job and is left with what that use came to, cancelled or not. Who was cancelled before
it reached the compiler never does and ends as cancelled. And nobody is left behind: a caller takes
at most four turns, and one can be taken as long as anybody is not done. -/
theorem round_trips (run : Client.process.Run .idle moves client) :
    (∃ user, Serial (eventsIn moves) user ∧
      ∀ caller, (client.jobInUse? caller).isSome = true ↔ user = some caller) ∧
    (∀ caller call, client.calls[caller]? = some call →
      call.Told caller (eventsOf caller (eventsIn moves)) ∧ turnsOf caller moves ≤ 4) ∧
    (∀ earlier move later caller call, moves = earlier ++ move :: later →
      move.after.calls[caller]? = some call → call.isUnwanted = true →
      eventsOf caller (eventsIn (earlier ++ [move])) = [] →
      eventsOf caller (eventsIn moves) = [] ∧
        ∀ result, client.result? caller = some result → result = .cancelled) ∧
    ((∀ action, action.turn?.isSome = true → client.step? action = none) ↔
      ∀ call ∈ client.calls, ∃ result, call.stage = .done result) := by
  refine ⟨serial run, ?_, ?_, halted_iff (run_sound run)⟩
  · intro caller call found
    obtain ⟨told, turns⟩ := told run found
    exact ⟨told, turns.trans (by cases call.stage <;> simp [CallStage.turns])⟩
  · rintro earlier move later caller call rfl found unwanted early
    have never := unreached run found unwanted early
    refine ⟨never, fun result done => ?_⟩
    unfold result? at done
    split at done
    · rename_i result found
      obtain rfl := Option.some.inj done
      obtain ⟨told, -⟩ := told run found
      rw [never] at told
      cases told with
      | before early => simp [CallStage.isBefore] at early
      | cancelled => rfl
    · simp at done

def sampleJob (base : String) : ClientJob := .compile ⟨[], [], base, "", []⟩

/-- While the first caller uses the compiler and is cancelled in the middle of that, a second one is
cancelled as it waits, a third has been cancelled before, and a fourth closes the compiler. -/
def fiveCallers : List ClientMove × Client :=
  Client.process.attempt .idle
    [.submit (sampleJob "a") false, .submit (sampleJob "b") false, .submit (sampleJob "c") true,
      .submit .close false, .submit (sampleJob "d") false, .check 0, .acquire 0, .proceed 0,
      .check 1, .acquire 1, .cancel 1, .check 2, .check 3, .acquire 3, .check 4, .acquire 4,
      .cancel 0, .finish 0 (.answered (.ok ⟨⟨#[1]⟩, ⟨#[]⟩, []⟩)), .proceed 1, .proceed 3,
      .finish 3 .closed, .proceed 4, .finish 4 (.answered (.error .closed))]

theorem round_trips_crossed : ∃ cancelling,
    let first : ClientCall :=
      ⟨sampleJob "a", true, .done (.compiled (.ok ⟨⟨⟨#[1]⟩, none⟩, []⟩))⟩
    let moves := fiveCallers.1
    let client := fiveCallers.2
    (Client.process.Run .idle moves client ∧
      moves = moves.take 11 ++ cancelling :: moves.drop 12 ∧
      (∃ call, cancelling.after.calls[1]? = some call ∧ call.isUnwanted = true) ∧
      eventsOf 1 (eventsIn (moves.take 11 ++ [cancelling])) = [] ∧
      client.calls[0]? = some first ∧
      eventsOf 0 (eventsIn moves) =
        [.began 0 (sampleJob "a"), .ended 0 (.answered (.ok ⟨⟨#[1]⟩, ⟨#[]⟩, []⟩))]) ∧
      first.Told 0 (eventsOf 0 (eventsIn moves)) ∧
      eventsOf 1 (eventsIn moves) = [] ∧ client.result? 1 = some .cancelled ∧
      Serial (eventsIn moves) none ∧
      ∀ action, action.turn?.isSome = true → client.step? action = none := by
  have run : Client.process.Run .idle fiveCallers.1 fiveCallers.2 := .attempt Client.process .idle _
  obtain ⟨⟨user, serial, uses⟩, told, unreached, halted⟩ := round_trips run
  obtain ⟨cancelling, found, facts⟩ := Option.map_eq_some_iff.mp
    (show fiveCallers.1[11]?.map (fun move => (move.after.calls[1]?.map ClientCall.isUnwanted,
      move.output.isEmpty)) = some (some true, true) by cbv)
  obtain ⟨cancelled, quiet⟩ := Prod.mk.inj facts
  obtain ⟨second, waits, unwanted⟩ := Option.map_eq_some_iff.mp cancelled
  have whole := (take_cons_drop found).symm
  have nothing : (eventsOf 1 (eventsIn (fiveCallers.1.take 11))).isEmpty = true := by cbv
  have early : eventsOf 1 (eventsIn (fiveCallers.1.take 11 ++ [cancelling])) = [] := by
    rw [eventsIn_append_singleton, eventsOf_append, List.isEmpty_iff.mp nothing,
      List.isEmpty_iff.mp quiet]
    rfl
  obtain ⟨never, ends⟩ := unreached _ cancelling _ 1 second whole waits unwanted early
  obtain ⟨result, done⟩ := Option.isSome_iff_exists.mp
    (show (fiveCallers.2.result? 1).isSome = true by cbv)
  obtain rfl := ends result done
  have served : fiveCallers.2.calls[0]? =
      some ⟨sampleJob "a", true, .done (.compiled (.ok ⟨⟨⟨#[1]⟩, none⟩, []⟩))⟩ := by cbv
  have seen : eventsOf 0 (eventsIn fiveCallers.1) =
      [.began 0 (sampleJob "a"), .ended 0 (.answered (.ok ⟨⟨#[1]⟩, ⟨#[]⟩, []⟩))] := by cbv
  have finished : fiveCallers.2.calls.all (fun call => call.stage.turns = 4) = true := by cbv
  have all_done : ∀ call ∈ fiveCallers.2.calls, ∃ result, call.stage = .done result := by
    intro call member
    have turns := of_decide_eq_true (List.all_eq_true.mp finished call member)
    cases stage : call.stage <;> simp [stage, CallStage.turns] at turns ⊢
  obtain rfl : user = none := by
    by_contra taken
    obtain ⟨holder, rfl⟩ := Option.ne_none_iff_exists'.mp taken
    obtain ⟨call, found, isUsing⟩ := jobInUse?_isSome.mp ((uses holder).mpr rfl)
    obtain ⟨result, done⟩ := all_done call (List.mem_of_getElem? found)
    simp [done, CallStage.isUsing] at isUsing
  exact ⟨cancelling, ⟨run, whole, ⟨second, waits, unwanted⟩, early, served, seen⟩,
    (told 0 _ served).1, never, done, serial, halted.mpr all_done⟩

end Client

end BuildWatch

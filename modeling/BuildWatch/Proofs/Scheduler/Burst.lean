import BuildWatch.Proofs.Scheduler.Timer

/-!
Bursts of changes. However often the timer is asked in one burst, it is believed at most once after
it, so besides the first build there are no more builds than bursts. A loop at rest answers a burst
with one build, at the time at which the debounce after its last change is over.
-/

namespace BuildWatch

theorem exists_splitBy_append {α : Type} {r : α → α → Bool} {items : List α} {last item : α}
    (latest : items.getLast? = some last) (related : r last item = true) :
    ∃ groups group, items.splitBy r = groups ++ [group] ∧
      (items ++ [item]).splitBy r = groups ++ [group ++ [item]] := by
  have nonempty : items.splitBy r ≠ [] := by
    rw [List.splitBy_ne_nil]
    rintro rfl
    simp at latest
  obtain ⟨groups, group, whole⟩ :=
    (List.eq_nil_or_concat (items.splitBy r)).resolve_left nonempty
  rw [List.concat_eq_append] at whole
  obtain ⟨flat, full, chains, apart⟩ := List.splitBy_eq_iff.mp whole
  have some : group ≠ [] := by
    rintro rfl
    simp at full
  have ends : group.getLast? = .some last := by
    rw [flat] at latest
    simpa [List.getLast?_append, List.getLast?_eq_some_getLast some] using latest
  refine ⟨groups, group, whole, List.splitBy_eq_iff.mpr ⟨?_, ?_, ?_, ?_⟩⟩
  · simp [flat]
  · simp only [List.mem_append, List.mem_singleton, not_or] at full ⊢
    exact ⟨full.1, by simp⟩
  · intro member among
    rcases List.mem_append.mp among with earlier | new
    · exact chains member (List.mem_append_left _ earlier)
    · rw [List.mem_singleton.mp new]
      have chain := chains group (List.mem_append_right _ (List.mem_singleton.mpr rfl))
      exact List.IsChain.append chain (List.isChain_singleton _) (by simp [ends, related])
  · rw [List.isChain_append] at apart ⊢
    refine ⟨apart.1, List.isChain_singleton _, fun before member after among => ?_⟩
    obtain ⟨full, _, different⟩ := apart.2.2 before member group (by simp)
    obtain rfl : group ++ [item] = after := by simpa using among
    exact ⟨full, by simp, by rwa [List.head_append_of_ne_nil some]⟩

namespace Delay

variable {delay next : Delay} {now wait last : Time} {hears wants asks left : Bool}
  {asked : List Time}

/-- The times in groups: those of a group follow each other sooner than `wait`. -/
def burstsOf (wait : Time) (asked : List Time) : List (List Time) :=
  asked.splitBy fun earlier later => later < earlier + wait

theorem burstsOf_of_late (quiet : ∀ last ∈ asked.getLast?, last + wait ≤ now) :
    (burstsOf wait (asked ++ [now])).length = (burstsOf wait asked).length + 1 := by
  rw [burstsOf, List.splitBy_append_cons [] (by simpa using quiet), List.length_append]
  rfl

theorem burstsOf_of_soon (latest : asked.getLast? = some last) (soon : now < last + wait) :
    (burstsOf wait (asked ++ [now])).length = (burstsOf wait asked).length := by
  obtain ⟨groups, group, before, after⟩ := exists_splitBy_append
    (r := fun earlier later => decide (later < earlier + wait)) latest (by simpa using soon)
  rw [burstsOf, burstsOf, before, after]
  simp

theorem burstsOf_le (wait : Time) (asked : List Time) (now : Time) :
    (burstsOf wait asked).length ≤ (burstsOf wait (asked ++ [now])).length := by
  by_cases quiet : ∀ last ∈ asked.getLast?, last + wait ≤ now
  · rw [burstsOf_of_late quiet]
    exact Nat.le_succ _
  · push Not at quiet
    obtain ⟨last, latest, soon⟩ := quiet
    rw [burstsOf_of_soon latest soon]

def isOpen (wait : Time) (asked : List Time) (now : Time) (delay : Delay) : Bool :=
  delay.armed || asked.getLast?.any fun last => now < last + wait

theorem isOpen_of_armed (armed : delay.armed = true) : isOpen wait asked now delay = true := by
  simp [isOpen, armed]

theorem isOpen_later {moment : Time} (passed : now ≤ moment) :
    (isOpen wait asked moment delay).toNat ≤ (isOpen wait asked now delay).toNat := by
  have kept : isOpen wait asked moment delay = true → isOpen wait asked now delay = true := by
    simp only [isOpen, Bool.or_eq_true, Option.any_eq_true, decide_eq_true_eq]
    rintro (armed | ⟨last, latest, soon⟩)
    · exact .inl armed
    · exact .inr ⟨last, latest, Nat.lt_of_le_of_lt passed soon⟩
  cases still : isOpen wait asked moment delay with
  | false => exact Nat.zero_le _
  | true => rw [kept still]

/-- What is wanted, and what may still be wanted for the latest burst, counted against the bursts:
every build that is started was counted here before. -/
theorem Moves.count (follows : Follows wait asked now delay)
    (moves : Moves now wait hears delay wants asks next left) :
    left.toNat + (isOpen wait (asked ++ if asks then [now] else []) now next).toNat +
        (burstsOf wait asked).length ≤
      wants.toNat + (isOpen wait asked now delay).toNat +
        (burstsOf wait (asked ++ if asks then [now] else [])).length := by
  have single := fun timer => Bool.toNat_le (isOpen wait asked now timer)
  cases moves with
  | kept => simp
  | asked kept =>
      have fewer : left.toNat ≤ wants.toNat := by
        cases left with
        | false => exact Nat.zero_le _
        | true => rw [kept rfl]
      have newest := Bool.toNat_le (isOpen wait (asked ++ [now]) now (delay.trigger now wait))
      rw [if_pos rfl]
      cases going : isOpen wait asked now delay with
      | true =>
          have more := burstsOf_le wait asked now
          simp only [Bool.toNat_true]
          omega
      | false =>
          have quiet : ∀ last ∈ asked.getLast?, last + wait ≤ now := by
            simp only [isOpen, Bool.or_eq_false_iff, Option.any_eq_false, decide_eq_false_iff_not,
              not_lt] at going
            exact going.2
          rw [burstsOf_of_late quiet]
          omega
  | accepted woke accepted =>
      obtain ⟨last, latest, waits⟩ := follows.armed (armed_of_isDue woke)
      have reached := waits.reached woke accepted
      have off : isOpen wait asked now (delay.onWake now).1 = false := by
        rw [waits.onWake_of_le woke reached]
        simp [isOpen, woken, latest, reached]
      simp [off, isOpen_of_armed (armed_of_isDue woke)]
  | postponed woke refused =>
      have most := single (delay.onWake now).1
      simp only [isOpen_of_armed (armed_of_isDue woke), if_neg Bool.false_ne_true,
        List.append_nil, Bool.toNat_true]
      omega
  | ignored deaf woke =>
      have most := single delay.woken
      simp only [isOpen_of_armed (armed_of_isDue woke), if_neg Bool.false_ne_true,
        List.append_nil, Bool.toNat_true]
      omega

end Delay

def bursts (debounce : Time) (turns : List Turn) : List (List Time) :=
  Delay.burstsOf debounce (askedTimes turns)

theorem bursts_append_singleton_le (debounce : Time) (turns : List Turn) (turn : Turn) :
    (bursts debounce turns).length ≤ (bursts debounce (turns ++ [turn])).length := by
  rw [bursts, bursts, askedTimes_append_singleton]
  cases turn.asksTimer with
  | false => simp
  | true => exact Delay.burstsOf_le ..

/-- The builds that were started and those still to come, counted against the bursts. -/
structure Counted (debounce : Time) (turns : List Turn) (system : BuildSystem) : Prop where
  started : (startedIn turns).length ≤ (bursts debounce turns).length + 1
  awaited : system.stage = .running →
    (startedIn turns).length + system.scheduler.wantsBuild.toNat +
        (Delay.isOpen debounce (askedTimes turns) system.now system.scheduler.delay).toNat ≤
      (bursts debounce turns).length + 1

theorem Counted.of_awaited {debounce : Time} {turns : List Turn} {system : BuildSystem}
    (awaited : (startedIn turns).length + system.scheduler.wantsBuild.toNat +
        (Delay.isOpen debounce (askedTimes turns) system.now system.scheduler.delay).toNat ≤
      (bursts debounce turns).length + 1) : Counted debounce turns system :=
  ⟨Nat.le_trans (Nat.le_trans (Nat.le_add_right ..) (Nat.le_add_right ..)) awaited,
    fun _ => awaited⟩

/-- Time passes only as far as the next wake of the timer. -/
def Turn.isPrompt (turn : Turn) : Bool :=
  (turn.before.scheduler.delay.nextWake turn.before.now).all fun wake => turn.after.now ≤ wake

theorem Turn.isPrompt_le {turn : Turn} (prompt : turn.isPrompt = true)
    (armed : turn.before.scheduler.delay.armed = true) :
    turn.after.now ≤ max turn.before.now turn.before.scheduler.delay.wake := by
  simpa [isPrompt, Delay.nextWake, armed] using prompt

/-- How far a loop that was at rest has come with a burst: the timer waits for its end, if it has
begun at all, or its one build was started. -/
inductive Answers (debounce : Time) (asked starts : List Time) (system : BuildSystem) : Prop
  | unanswered : starts = [] → system.scheduler.running = none →
      system.scheduler.wantsBuild = false → system.scheduler.project.isSome = true →
      Delay.Follows debounce asked system.now system.scheduler.delay →
      (system.scheduler.delay.armed = true → system.now ≤ system.scheduler.delay.wake) →
      (asked ≠ [] → system.scheduler.delay.armed = true) → Answers debounce asked starts system
  | answered {last} : asked.getLast? = some last → starts = [last + debounce] →
      system.scheduler.wantsBuild = false → system.scheduler.delay.armed = false →
      last + debounce ≤ system.now → Answers debounce asked starts system

namespace Scheduler

theorem launch_count (scheduler : Scheduler) :
    (scheduler.launch.2.filterMap Effect.started?).length + scheduler.launch.1.wantsBuild.toNat ≤
      scheduler.wantsBuild.toNat := by
  generalize scheduler.launch.2.filterMap Effect.started? = new, scheduler.launch.1 = next,
    scheduler.launches = launched
  cases launched with
  | held => simp
  | skipped => exact Nat.zero_le _
  | started wanted => simp [wanted]

theorem launch_one {scheduler : Scheduler} (wanted : scheduler.wantsBuild = true)
    (free : scheduler.running = none) (can : scheduler.canBuild = true) :
    ∃ build, scheduler.launch.2.filterMap Effect.started? = [build] ∧
      scheduler.launch.1.wantsBuild = false := by
  generalize scheduler.launch.2.filterMap Effect.started? = new, scheduler.launch.1 = next,
    scheduler.launches = launched
  cases launched with
  | held settled => simp [free] at settled; simp [wanted] at settled
  | skipped _ _ stuck => simp [stuck] at can
  | started => exact ⟨_, rfl, rfl⟩

theorem rests_of_idle {scheduler : Scheduler} (rest : scheduler.phase = .idle) :
    scheduler.running = none ∧ scheduler.wantsBuild = false ∧ scheduler.delay.armed = false := by
  unfold phase at rest
  split at rest
  · split at rest <;> simp at rest
  · rename_i free
    split at rest
    · simp at rest
    · rename_i still
      exact ⟨free, by simpa using still⟩

end Scheduler

namespace BuildRun

variable {tree : FileTree} {source : ProjectSource} {debounce : Time}
  {turns earlier later : List Turn} {system : BuildSystem} {action : BuildAction}
  {moved : BuildSystem × List Effect}

theorem counted (run : BuildRun (.create tree source debounce) turns system) :
    Counted debounce turns system := by
  induction run with
  | begin =>
      have launched := Scheduler.launch_count (.create source debounce)
      refine .of_awaited ?_
      rw [startedIn_singleton, BuildSystem.opening_started, BuildSystem.begin_scheduler,
        Scheduler.launch_delay]
      exact launched
  | @step turns before action moved run possible ih =>
      by_cases running : moved.1.stage = .running
      · obtain ⟨decided, moves, same, new, -⟩ := run.moves possible running
        have loops := BuildSystem.running_of_step? possible running
        have earlier := ih.awaited loops
        have count := moves.count (run.follows loops)
        have launched := decided.launch_count
        have passed : before.now ≤ moved.1.now := by
          rw [BuildSystem.now_of_step? possible]
          exact Nat.le_add_right ..
        have later := @Delay.isOpen_later decided.delay before.now debounce
          (askedTimes (turns ++ [⟨before, some action, moved.2, moved.1⟩])) moved.1.now passed
        refine .of_awaited ?_
        simp only [askedTimes_append_singleton] at later
        rw [bursts] at earlier ⊢
        simp only [startedIn_append, startedIn_singleton, List.length_append, new, same,
          Scheduler.launch_delay, askedTimes_append_singleton]
        omega
      · have more := bursts_append_singleton_le debounce turns
          ⟨before, some action, moved.2, moved.1⟩
        refine ⟨?_, fun loops => absurd loops running⟩
        rw [startedIn_append, startedIn_singleton, started_of_not_running possible running,
          List.append_nil]
        exact Nat.le_trans ih.started (Nat.succ_le_succ more)

theorem answers_step {asked starts : List Time}
    (answers : Answers debounce asked starts system)
    (run : BuildRun (.create tree source debounce) turns system)
    (possible : system.step? action = some moved) (running : moved.1.stage = .running)
    (prompt : Turn.isPrompt ⟨system, some action, moved.2, moved.1⟩ = true)
    (chain : (asked ++ if Turn.asksTimer ⟨system, some action, moved.2, moved.1⟩ then
      [system.now] else []).IsChain fun earlier later => later < earlier + debounce) :
    Answers debounce
      (asked ++ if Turn.asksTimer ⟨system, some action, moved.2, moved.1⟩ then [system.now]
        else [])
      (starts ++ (Turn.started ⟨system, some action, moved.2, moved.1⟩).map fun _ => system.now)
      moved.1 := by
  obtain ⟨decided, moves, same, new, free⟩ := run.moves possible running
  have passed := BuildSystem.now_of_step? possible
  have instant := @Turn.elapsed_of_asksTimer system moved.1 action moved.2
  have reach := Turn.isPrompt_le prompt
  have still : decided.wantsBuild = false → moved.1.scheduler = decided ∧
      Turn.started ⟨system, some action, moved.2, moved.1⟩ = [] := by
    intro unwanted
    rw [same, new, Scheduler.launch_of_unwanted unwanted]
    exact ⟨rfl, rfl⟩
  generalize Turn.asksTimer ⟨system, some action, moved.2, moved.1⟩ = asks at *
  cases answers with
  | unanswered none idle unwanted loaded follows early begun =>
      have followed := (follows.moves moves).later (passed ▸ Nat.le_add_right ..)
      obtain ⟨rests, kept⟩ := free idle
      generalize timer : decided.delay = delay, wish : decided.wantsBuild = wants at moves
      have waits : wants = false → (delay.armed = true → moved.1.now ≤ delay.wake) →
          ((asked ++ if asks then [system.now] else []) ≠ [] → delay.armed = true) →
          Answers debounce (asked ++ if asks then [system.now] else [])
            (starts ++ (Turn.started ⟨system, some action, moved.2, moved.1⟩).map
              fun _ => system.now) moved.1 := by
        intro given wakes begun
        obtain ⟨after, nothing⟩ := still (wish.trans given)
        rw [nothing]
        exact .unanswered (by simpa using none) (by rw [after, rests]) (by rw [after, wish, given])
          (by rw [after, kept, loaded]) (by rwa [after]) (by rwa [after, timer])
          (by rwa [after, timer])
      cases moves with
      | kept =>
          refine waits unwanted (fun armed => ?_) (by simpa using begun)
          have soon := reach armed
          rwa [max_eq_right (early armed)] at soon
      | asked left =>
          refine waits ?_ (fun _ => ?_) fun _ => Delay.trigger_armed ..
          · by_contra wanted
            simp [left (by simpa using wanted)] at unwanted
          · rw [passed, instant rfl]
            exact Delay.le_trigger_wake early debounce
      | accepted woke accepted =>
          obtain ⟨last, latest, waiting⟩ := follows.armed (Delay.armed_of_isDue woke)
          have reached := waiting.reached woke accepted
          have moment : system.now = last + debounce := by
            have soon := early (Delay.armed_of_isDue woke)
            have bound := waiting.wake_le
            lia
          have can : decided.canBuild = true := by simp [Scheduler.canBuild, kept, loaded]
          obtain ⟨build, one, given⟩ := Scheduler.launch_one wish rests can
          refine @Answers.answered _ _ _ _ last (by simpa using latest) ?_ (by rw [same, given]) ?_ ?_
          · rw [new, one, none, ← moment]
            rfl
          · rw [same, Scheduler.launch_delay, timer, waiting.onWake_of_le woke reached]
            rfl
          · rw [passed, moment]
            exact Nat.le_add_right ..
      | postponed woke refused =>
          obtain ⟨last, latest, waiting⟩ := follows.armed (Delay.armed_of_isDue woke)
          have again := waiting.postponed woke refused
          refine waits unwanted (fun _ => ?_) fun _ => again.armed
          have soon := reach (Delay.armed_of_isDue woke)
          rw [max_eq_left (Delay.wake_le_of_isDue woke)] at soon
          exact Nat.le_trans soon (Delay.le_onWake_wake refused)
      | ignored deaf => simp [Scheduler.canBuild, loaded] at deaf
  | answered latest once unwanted off late =>
      generalize timer : decided.delay = delay, wish : decided.wantsBuild = wants at moves
      cases moves with
      | kept =>
          obtain ⟨after, nothing⟩ := still (wish.trans unwanted)
          rw [nothing]
          refine .answered (by simpa using latest) (by simpa using once)
            (by rw [after, wish, unwanted]) (by rw [after, timer, off]) ?_
          rw [passed]
          exact Nat.le_trans late (Nat.le_add_right ..)
      | asked left =>
          have soon := (List.isChain_append.mp chain).2.2 _ latest system.now (by simp)
          exact absurd soon (Nat.not_lt.mpr late)
      | accepted woke | postponed woke | ignored _ woke =>
          simp [Delay.armed_of_isDue woke] at off

theorem answers {quiet : BuildSystem}
    (past : BuildRun (.create tree source debounce) earlier quiet)
    (run : BuildRun (.create tree source debounce) (earlier ++ later) system)
    (rest : quiet.scheduler.phase = .idle) (loaded : quiet.scheduler.project.isSome = true)
    (prompt : ∀ turn ∈ later, turn.isPrompt = true)
    (chain : (askedTimes later).IsChain fun earlier later => later < earlier + debounce)
    (running : system.stage = .running) :
    Answers debounce (askedTimes later) (startTimes later) system := by
  refine past.follow (fun between reached => (∀ turn ∈ between, turn.isPrompt = true) →
    (askedTimes between).IsChain (fun earlier later => later < earlier + debounce) →
    reached.stage = .running → Answers debounce (askedTimes between) (startTimes between) reached)
    run ?_ ?_ prompt chain running
  · intro _ _ _
    obtain ⟨idle, unwanted, off⟩ := Scheduler.rests_of_idle rest
    refine .unanswered rfl idle unwanted loaded ⟨nofun, ?_⟩ ?_ (fun begun => absurd rfl begun)
    · simp [off]
    · simp [off]
  · intro between reached action moved run answers possible prompt chain running
    simp only [askedTimes_append_singleton] at chain
    have before := answers (fun turn member => prompt turn (List.mem_append_left _ member))
      (List.isChain_append.mp chain).1 (BuildSystem.running_of_step? possible running)
    simp only [askedTimes_append_singleton, startTimes_append_singleton]
    exact answers_step before run possible running
      (prompt _ (List.mem_append_right _ (List.mem_singleton.mpr rfl))) chain

/-- At most one build more is started than there are bursts, and a loop at rest that has a project
starts exactly one build for a burst, at the time at which the debounce after its last change is
over. -/
theorem coalesced (run : BuildRun (.create tree source debounce) turns system) :
    (startedIn turns).length ≤ (bursts debounce turns).length + 1 ∧
      ∀ earlier later quiet times last, turns = earlier ++ later →
        BuildRun (.create tree source debounce) earlier quiet →
        quiet.scheduler.phase = .idle → quiet.scheduler.project.isSome = true →
        (∀ turn ∈ later, turn.isPrompt = true) →
        bursts debounce later = [times] → times.getLast? = some last →
        system.stage = .running → last + debounce ≤ system.now →
        system.scheduler.delay.isDue system.now = false →
        startTimes later = [last + debounce] := by
  refine ⟨run.counted.started, ?_⟩
  rintro earlier later quiet times last rfl past rest loaded prompt burst latest running late undue
  obtain ⟨flat, -, chains, -⟩ := List.splitBy_eq_iff.mp burst
  have whole : askedTimes later = times := by simpa using flat
  have chain : (askedTimes later).IsChain fun earlier later => later < earlier + debounce := by
    rw [whole]
    simpa using chains times (List.mem_singleton.mpr rfl)
  cases past.answers run rest loaded prompt chain running with
  | unanswered _ _ _ _ follows early begun =>
      have armed : system.scheduler.delay.armed = true := by
        refine begun ?_
        rw [whole]
        rintro rfl
        simp at latest
      obtain ⟨again, found, waits⟩ := follows.armed armed
      rw [whole, latest] at found
      obtain rfl := Option.some.inj found
      have reached : system.scheduler.delay.wake ≤ system.now := Nat.le_trans waits.wake_le late
      simp [Delay.isDue, armed, reached] at undue
  | answered found once =>
      rw [whole, latest] at found
      rw [once, Option.some.inj found]

def twoChanges : List Turn × BuildSystem :=
  BuildSystem.sample.attempt
    [.load 0, .list 0, .ask 0, .answer 0 sampleUse, .finish, .change .source, .pass 300,
      .change .music, .pass 200, .wake, .pass 300, .wake, .load 1]

theorem coalesced_two : ∃ quiet,
    let earlier := twoChanges.1.take 6
    let later := twoChanges.1.drop 6
    (BuildRun .sample twoChanges.1 twoChanges.2 ∧ twoChanges.1 = earlier ++ later ∧
      BuildRun .sample earlier quiet ∧ quiet.scheduler.phase = .idle ∧
      quiet.scheduler.project.isSome = true ∧ (∀ turn ∈ later, turn.isPrompt = true) ∧
      bursts 500 later = [[0, 300]] ∧ twoChanges.2.stage = .running ∧
      300 + 500 ≤ twoChanges.2.now ∧
      twoChanges.2.scheduler.delay.isDue twoChanges.2.now = false) ∧
      (startedIn twoChanges.1).length ≤ (bursts 500 twoChanges.1).length + 1 ∧
      startTimes later = [300 + 500] := by
  have run : BuildRun .sample twoChanges.1 twoChanges.2 := .attempt BuildSystem.sample _
  have whole : twoChanges.1 = twoChanges.1.take 6 ++ twoChanges.1.drop 6 :=
    (List.take_append_drop 6 _).symm
  have begun : twoChanges.1.take 6 ≠ [] := by
    intro none
    have first : (twoChanges.1.take 6).length = 6 := by cbv
    simp [none] at first
  obtain ⟨quiet, past⟩ := (whole ▸ run).earlierRun begun
  have before : (twoChanges.1.take 6).getLast?.map (fun turn =>
      (turn.after.scheduler.phase, turn.after.scheduler.project.isSome)) =
      some (.idle, true) := by cbv
  have prompt : (twoChanges.1.drop 6).all Turn.isPrompt = true := by cbv
  have burst : bursts 500 (twoChanges.1.drop 6) = [[0, 300]] := by cbv
  obtain ⟨last, found, facts⟩ := Option.map_eq_some_iff.mp before
  have same := past.getLast?_after
  rw [found] at same
  obtain rfl : last.after = quiet := by simpa using same
  obtain ⟨rest, loaded⟩ := Prod.mk.inj facts
  have running : twoChanges.2.stage = .running := by cbv
  have late : 300 + 500 ≤ twoChanges.2.now := by cbv
  have undue : twoChanges.2.scheduler.delay.isDue twoChanges.2.now = false := by cbv
  obtain ⟨few, each⟩ := coalesced run
  have patient := List.all_eq_true.mp prompt
  exact ⟨last.after, ⟨run, whole, past, rest, loaded, patient, burst, running, late, undue⟩, few,
    each _ _ _ _ 300 whole past rest loaded patient burst rfl running late undue⟩

end BuildRun

end BuildWatch

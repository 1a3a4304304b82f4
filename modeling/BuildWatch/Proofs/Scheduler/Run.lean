import BuildWatch.Proofs.Run
import BuildWatch.Scheduler.System

/-!
Runs of the build loop: the turns by which a system comes from its creation to where it is, and
what is read off them. A run may take every action that is possible at its time, so what holds of
all runs holds for every order in which things can happen.
-/

namespace BuildWatch

def Effect.started? : Effect → Option Build
  | .start build => some build
  | _ => none

def Effect.published? : Effect → Option BuildState
  | .publish state => some state
  | _ => none

/-- What happened between two moments. The first turn of a run is the beginning of the loop, which
is no action. -/
structure Turn where
  before : BuildSystem
  action : Option BuildAction
  effects : List Effect
  after : BuildSystem

namespace Turn

def started (turn : Turn) : List Build := turn.effects.filterMap Effect.started?

def published (turn : Turn) : List BuildState := turn.effects.filterMap Effect.published?

def isConfigChange (turn : Turn) : Bool :=
  match turn.action with
  | some (.change .config) => true
  | _ => false

theorem action_of_isConfigChange {turn : Turn} (changed : turn.isConfigChange = true) :
    turn.action = some (.change .config) := by
  unfold isConfigChange at changed
  split at changed
  · assumption
  · simp at changed

def ended? (turn : Turn) : Option (Build × Except String BuildOutcome) :=
  match turn.action with
  | some .finish => turn.before.result?
  | _ => none

end Turn

def BuildSystem.opening (origin : BuildSystem) : Turn :=
  ⟨origin, none, origin.begin.2, origin.begin.1⟩

/-- The turns by which a system comes to where it is. -/
inductive BuildRun (origin : BuildSystem) : List Turn → BuildSystem → Prop
  | begin : BuildRun origin [origin.opening] origin.begin.1
  | step {turns system action moved} : BuildRun origin turns system →
      system.step? action = some moved →
      BuildRun origin (turns ++ [⟨system, some action, moved.2, moved.1⟩]) moved.1

/-- The turns and the system after some actions are tried one after the other, leaving out those
that are not possible. -/
def BuildSystem.attempt (origin : BuildSystem) (actions : List BuildAction) :
    List Turn × BuildSystem :=
  actions.foldl (fun reached action =>
    match reached.2.step? action with
    | some moved => (reached.1 ++ [⟨reached.2, some action, moved.2, moved.1⟩], moved.1)
    | none => reached) ([origin.opening], origin.begin.1)

def projectTree (content : ByteArray) : FileTree := ⟨[([[112]], .file content)]⟩

def BuildSystem.sample : BuildSystem :=
  .create (projectTree ⟨#[123, 125]⟩) ⟨⟨[Path.slash]⟩, ⟨[112]⟩, .compo⟩ 500

def sampleUse : ClientUse := .answered (.ok ⟨⟨#[1]⟩, ⟨#[]⟩, []⟩)

def startedIn (turns : List Turn) : List Build := turns.flatMap Turn.started

/-- The turns since the latest change of the project file, or all if there was none. -/
def sinceConfigChange (turns : List Turn) : List Turn :=
  turns.rtakeWhile fun turn => !turn.isConfigChange

@[simp] theorem startedIn_nil : startedIn [] = [] := rfl

@[simp] theorem startedIn_append (earlier later : List Turn) :
    startedIn (earlier ++ later) = startedIn earlier ++ startedIn later :=
  List.flatMap_append

@[simp] theorem startedIn_singleton (turn : Turn) : startedIn [turn] = turn.started := by
  simp [startedIn]

theorem sinceConfigChange_append_singleton (turns : List Turn) (turn : Turn) :
    sinceConfigChange (turns ++ [turn]) =
      if turn.isConfigChange then [] else sinceConfigChange turns ++ [turn] := by
  rw [sinceConfigChange, List.rtakeWhile_concat]
  by_cases changed : turn.isConfigChange <;> simp [changed, sinceConfigChange]

theorem sinceConfigChange_append (earlier later : List Turn) :
    sinceConfigChange (earlier ++ later) =
      if later.any Turn.isConfigChange then sinceConfigChange later
      else sinceConfigChange earlier ++ later := by
  induction later using List.reverseRecOn with
  | nil => simp
  | append_singleton rest turn ih =>
      rw [← List.append_assoc, sinceConfigChange_append_singleton, ih,
        sinceConfigChange_append_singleton, List.any_append]
      by_cases now : turn.isConfigChange = true
      · simp [now]
      · by_cases before : rest.any Turn.isConfigChange = true <;> simp [now, before]

theorem startedSince_append_singleton (turns : List Turn) (turn : Turn) :
    startedIn (sinceConfigChange (turns ++ [turn])) =
      if turn.isConfigChange then [] else startedIn (sinceConfigChange turns) ++ turn.started := by
  rw [sinceConfigChange_append_singleton]
  split <;> simp

theorem startedSince_opening (origin : BuildSystem) :
    startedIn (sinceConfigChange [origin.opening]) = origin.opening.started := by
  rw [← List.nil_append [origin.opening], startedSince_append_singleton]
  simp [sinceConfigChange, Turn.isConfigChange, BuildSystem.opening]

theorem sinceConfigChange_suffix (turns : List Turn) : sinceConfigChange turns <:+ turns :=
  List.rtakeWhile_suffix _ _

namespace BuildRun

variable {origin system : BuildSystem} {turns earlier later : List Turn} {turn : Turn}

theorem attempt (origin : BuildSystem) (actions : List BuildAction) :
    BuildRun origin (origin.attempt actions).1 (origin.attempt actions).2 := by
  induction actions using List.reverseRecOn with
  | nil => exact .begin
  | append_singleton earlier action ih =>
      rw [BuildSystem.attempt, List.foldl_append]
      simp only [List.foldl_cons, List.foldl_nil]
      split
      · exact ih.step ‹_›
      · exact ih

theorem nonempty (run : BuildRun origin turns system) : turns ≠ [] := by
  cases run with
  | begin => simp
  | step => simp

theorem last (run : BuildRun origin (turns ++ [turn]) system) (longer : turns ≠ []) :
    ∃ previous action moved, BuildRun origin turns previous ∧
      previous.step? action = some moved ∧
      turn = ⟨previous, some action, moved.2, moved.1⟩ ∧ system = moved.1 := by
  generalize whole : turns ++ [turn] = all at run
  cases run with
  | begin =>
      have single : turns = [] := by simpa using congrArg List.length whole
      exact absurd single longer
  | @step before previous action moved run possible =>
      obtain ⟨rfl, same⟩ := List.append_inj' whole rfl
      obtain rfl := List.singleton_inj.mp same
      exact ⟨previous, action, moved, run, possible, rfl, rfl⟩

theorem earlierRun (run : BuildRun origin (earlier ++ later) system) (begun : earlier ≠ []) :
    ∃ previous, BuildRun origin earlier previous := by
  induction later using List.reverseRecOn generalizing system with
  | nil => exact ⟨system, by simpa using run⟩
  | append_singleton rest turn ih =>
      rw [← List.append_assoc] at run
      obtain ⟨previous, -, -, shorter, -⟩ := run.last (by simp [begun])
      exact ih shorter

theorem turn_cases (run : BuildRun origin (earlier ++ turn :: later) system) :
    (earlier = [] ∧ turn = origin.opening) ∨
      ∃ previous action moved, BuildRun origin earlier previous ∧
        previous.step? action = some moved ∧
        turn = ⟨previous, some action, moved.2, moved.1⟩ := by
  rw [List.append_cons] at run
  obtain ⟨reached, run⟩ := run.earlierRun (by simp)
  by_cases first : earlier = []
  · subst earlier
    generalize whole : [] ++ [turn] = turns at run
    cases run with
    | begin => exact .inl ⟨rfl, List.singleton_inj.mp whole⟩
    | step run =>
        obtain ⟨empty, -⟩ := List.append_inj' whole rfl
        exact absurd empty.symm run.nonempty
  · obtain ⟨previous, action, moved, shorter, possible, rfl, -⟩ := run.last first
    exact .inr ⟨previous, action, moved, shorter, possible, rfl⟩

theorem since (Holds : List Turn → BuildSystem → Prop) {action : BuildAction}
    (run : BuildRun origin (earlier ++ turn :: later) system) (acted : turn.action = some action)
    (brought : ∀ {reached moved}, BuildRun origin earlier reached →
      reached.step? action = some moved → turn = ⟨reached, some action, moved.2, moved.1⟩ →
      Holds [] moved.1)
    (kept : ∀ {between reached action moved},
      BuildRun origin (earlier ++ turn :: between) reached → Holds between reached →
      reached.step? action = some moved →
      Holds (between ++ [⟨reached, some action, moved.2, moved.1⟩]) moved.1) :
    Holds later system := by
  induction later using List.reverseRecOn generalizing system with
  | nil =>
      have begun : earlier ≠ [] := by
        rintro rfl
        rcases run.turn_cases with ⟨-, rfl⟩ | ⟨_, _, _, past, -⟩
        · simp [BuildSystem.opening] at acted
        · exact past.nonempty rfl
      obtain ⟨reached, _, moved, past, possible, rfl, rfl⟩ := run.last begun
      obtain rfl := Option.some.inj acted
      exact brought past possible rfl
  | append_singleton rest last ih =>
      rw [← List.cons_append, ← List.append_assoc] at run
      obtain ⟨previous, action, moved, shorter, possible, rfl, rfl⟩ := run.last (by simp)
      exact kept shorter (ih shorter) possible

theorem getLast?_after (run : BuildRun origin turns system) :
    turns.getLast?.map Turn.after = some system := by
  cases run with
  | begin => rfl
  | step => simp

theorem follow (Holds : List Turn → BuildSystem → Prop) {reached : BuildSystem}
    (past : BuildRun origin earlier reached) (run : BuildRun origin (earlier ++ later) system)
    (held : Holds [] reached)
    (kept : ∀ {between reached action moved},
      BuildRun origin (earlier ++ between) reached → Holds between reached →
      reached.step? action = some moved →
      Holds (between ++ [⟨reached, some action, moved.2, moved.1⟩]) moved.1) :
    Holds later system := by
  induction later using List.reverseRecOn generalizing system with
  | nil =>
      rw [List.append_nil] at run
      obtain rfl := Option.some.inj (past.getLast?_after.symm.trans run.getLast?_after)
      exact held
  | append_singleton rest last ih =>
      rw [← List.append_assoc] at run
      obtain ⟨previous, action, moved, shorter, possible, rfl, rfl⟩ :=
        run.last (by simp [past.nonempty])
      exact kept shorter (ih shorter) possible

end BuildRun

end BuildWatch

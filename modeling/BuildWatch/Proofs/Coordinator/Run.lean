import BuildWatch.Coordinator.Pipelines
import BuildWatch.Proofs.Coordinator.Dispatch
import BuildWatch.Proofs.Music.Reaction
import BuildWatch.Proofs.Run
import BuildWatch.Proofs.Scheduler.Reaction

/-!
Runs of the loops with their watcher. What the loop that builds the code does in such a run is a
run of its own: the watcher and the music only decide what it is told, and when.
-/

namespace BuildWatch

abbrev PipelineMove := Move Pipelines PipelineAction ServerOutput

namespace PipelineMove

/-- What the loop of a receiver and its surroundings do in a move, if anything. -/
def turn? (receiver : Receiver) (move : PipelineMove) : Option (Turn ⊕ MusicMove) :=
  match receiver, move.action with
  | .code, none => some (.inl ⟨move.before.code, none, move.output.code, move.after.code⟩)
  | .code, some (.pass time) =>
    some (.inl ⟨move.before.code, some (.pass time), [], move.after.code⟩)
  | .code, some (.code action) =>
    some (.inl ⟨move.before.code, some action, move.output.code, move.after.code⟩)
  | .music, none => some (.inr ⟨move.before.music, none, move.output.music, move.after.music⟩)
  | .music, some (.pass time) =>
    some (.inr ⟨move.before.music, some (.pass time), [], move.after.music⟩)
  | .music, some (.music action) =>
    some (.inr ⟨move.before.music, some action, move.output.music, move.after.music⟩)
  | _, _ => none

end PipelineMove

namespace Pipelines

def process : Process Pipelines PipelineAction ServerOutput := ⟨begin, step?⟩

def turns (receiver : Receiver) (moves : List PipelineMove) : List (Turn ⊕ MusicMove) :=
  moves.filterMap (PipelineMove.turn? receiver)

/-- What an action means for the loop that builds the code: it takes an action of its own, or
changes move on their way to it, or it is left alone. -/
inductive OnCode (system : Pipelines) : PipelineAction → Pipelines × ServerOutput → Prop
  | acted {action buildAction effects next} :
      system.code.step? buildAction = some (next.1.code, effects) →
      PipelineMove.turn? .code ⟨system, some action, next.2, next.1⟩ =
        some (.inl ⟨system.code, some buildAction, effects, next.1.code⟩) →
      ((∀ change, buildAction ≠ .change change) → next.1.dispatch = system.dispatch) →
      OnCode system action next
  | watched {action log next} :
      system.dispatch.Happens system.code.scheduler.sourceDir system.isOpen action
        (next.1.dispatch, log) →
      next.1.code = system.code → OnCode system (.dispatch action) next
  | sang {action input next} :
      system.dispatch.admit? .music input = some next.1.dispatch →
      next.1.code = system.code → OnCode system (.music action) next

variable {system : Pipelines} {action : PipelineAction} {next : Pipelines × ServerOutput}

theorem step?_dispatch_iff {action : DispatchAction} :
    system.step? (.dispatch action) = some next ↔ ∃ dispatch log,
      system.dispatch.step? system.code.scheduler.sourceDir system.isOpen action =
        some (dispatch, log) ∧ next = ({ system with dispatch }, ⟨[], [], log⟩) := by
  simp only [step?, Option.bind_eq_bind, Option.bind_eq_some_iff, Prod.exists, Option.some.injEq]
  simp only [eq_comm]

theorem step?_code_iff {action : BuildAction} :
    system.step? (.code action) = some next ↔ ∃ dispatch code effects,
      system.dispatch.admit? .code action.input = some dispatch ∧
        system.code.step? action = some (code, effects) ∧
        next = ({ system with code, dispatch }, ⟨effects, [], []⟩) := by
  simp only [step?, Option.bind_eq_bind, Option.bind_eq_some_iff, Prod.exists, Option.some.injEq]
  simp only [eq_comm, exists_and_left]

theorem step?_music_iff {action : MusicAction} :
    system.step? (.music action) = some next ↔ ∃ dispatch music effects,
      system.dispatch.admit? .music action.input = some dispatch ∧
        system.music.step? action = some (music, effects) ∧
        next = ({ system with music, dispatch }, ⟨[], effects, []⟩) := by
  simp only [step?, Option.bind_eq_bind, Option.bind_eq_some_iff, Prod.exists, Option.some.injEq]
  simp only [eq_comm, exists_and_left]

theorem onCode_of_step? (possible : system.step? action = some next) :
    OnCode system action next := by
  cases action with
  | pass time =>
      obtain rfl := Option.some.inj possible
      exact .acted rfl rfl fun _ => rfl
  | dispatch action =>
      obtain ⟨dispatch, log, moved, rfl⟩ := step?_dispatch_iff.mp possible
      exact .watched (Dispatch.happens_of_step? moved) rfl
  | code action =>
      obtain ⟨dispatch, code, effects, admitted, moved, rfl⟩ := step?_code_iff.mp possible
      refine .acted moved rfl fun other => Dispatch.eq_of_admit? admitted ?_
      intro change same
      cases action with
      | change received => exact other received rfl
      | _ => cases same
  | music action =>
      obtain ⟨dispatch, music, effects, admitted, -, rfl⟩ := step?_music_iff.mp possible
      exact .sang admitted rfl

theorem running_of_step? (possible : system.step? action = some next)
    (running : next.1.code.stage = .running) : system.code.stage = .running := by
  cases onCode_of_step? possible with
  | acted moved => exact BuildSystem.running_of_step? moved running
  | watched _ same | sang _ same => exact same ▸ running

theorem classifier_of_step? (possible : system.step? action = some next) :
    next.1.dispatch.classifier = system.dispatch.classifier := by
  cases action with
  | pass time =>
      obtain rfl := Option.some.inj possible
      rfl
  | dispatch action =>
      obtain ⟨dispatch, log, moved, rfl⟩ := step?_dispatch_iff.mp possible
      exact (Dispatch.happens_of_step? moved).keeps.classifier
  | code action =>
      obtain ⟨dispatch, code, effects, admitted, -, rfl⟩ := step?_code_iff.mp possible
      exact (Dispatch.keeps_of_admit? admitted).1
  | music action =>
      obtain ⟨dispatch, music, effects, admitted, -, rfl⟩ := step?_music_iff.mp possible
      exact (Dispatch.keeps_of_admit? admitted).1

end Pipelines

/-- What the loop that builds the code does in some moves. -/
def codeTurns (moves : List PipelineMove) : List Turn :=
  (Pipelines.turns .code moves).filterMap Sum.getLeft?

theorem codeTurns_append (earlier later : List PipelineMove) :
    codeTurns (earlier ++ later) = codeTurns earlier ++ codeTurns later := by
  simp only [codeTurns, Pipelines.turns, List.filterMap_append]

theorem codeTurns_singleton (move : PipelineMove) :
    codeTurns [move] = ((PipelineMove.turn? .code move).bind Sum.getLeft?).toList := by
  rw [codeTurns, Pipelines.turns, List.filterMap_filterMap, List.filterMap_cons]
  cases (PipelineMove.turn? .code move).bind Sum.getLeft? <;> rfl

namespace PipelineRun

variable {origin system : Pipelines} {moves : List PipelineMove}

theorem code (run : Pipelines.process.Run origin moves system) :
    BuildRun origin.code (codeTurns moves) system.code := by
  induction run with
  | begin => exact .begin
  | step run possible ih =>
      rw [codeTurns_append, codeTurns_singleton]
      cases Pipelines.onCode_of_step? possible with
      | acted moved turn =>
          rw [turn]
          exact ih.step moved
      | watched _ same | sang _ same =>
          rw [same]
          exact (List.append_nil _).symm ▸ ih

theorem classifier (run : Pipelines.process.Run origin moves system) :
    system.dispatch.classifier = origin.dispatch.classifier := by
  induction run with
  | begin => rfl
  | step run possible ih => rw [Pipelines.classifier_of_step? possible, ih]

end PipelineRun

end BuildWatch

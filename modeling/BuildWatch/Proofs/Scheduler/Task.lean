import BuildWatch.Proofs.Scheduler.OneBuild

/-!
Where the tasks after an action come from: a task was there before, or it moved on by the action
itself, or it is the task of a build that was started.
-/

namespace BuildWatch

/-- A task was there before, though it may have been given up since, or it begins with some
effects. -/
inductive Descends (system : BuildSystem) (effects : List Effect) (task : BuildTask) : Prop
  | kept {earlier} : earlier ∈ system.tasks → task.build = earlier.build →
      task.stage = earlier.stage → (task.isCancelled = false → earlier.isCancelled = false) →
      Descends system effects task
  | begun : .start task.build ∈ effects → task.stage = .starting → Descends system effects task

namespace Descends

variable {system next : BuildSystem} {task : BuildTask} {effects : List Effect}

theorem refl (member : task ∈ system.tasks) : Descends system effects task :=
  .kept member rfl rfl id

theorem mono (descends : Descends next effects task) (fewer : next.tasks ⊆ system.tasks) :
    Descends system effects task := by
  cases descends with
  | kept among build stage cancelled => exact .kept (fewer among) build stage cancelled
  | begun start starting => exact .begun start starting

theorem of_mapTask {number : Nat} {change : BuildTask → BuildTask}
    (member : task ∈ (system.mapTask number change).tasks)
    (kept : ∀ task, (change task).build = task.build ∧ (change task).stage = task.stage ∧
      ((change task).isCancelled = false → task.isCancelled = false)) :
    Descends system effects task := by
  obtain ⟨earlier, among, rfl⟩ := List.mem_map.mp member
  obtain ⟨build, stage, cancelled⟩ := kept earlier
  split
  · exact .kept among build stage cancelled
  · exact .refl among

theorem of_perform {effect : Effect} (member : task ∈ (system.perform effect).tasks) :
    Descends system [effect] task := by
  cases effect with
  | log | publish | make | close => exact .refl member
  | start build =>
      rcases List.mem_append.mp member with among | last
      · exact .refl among
      · rw [List.mem_singleton.mp last]
        exact .begun (List.mem_singleton.mpr rfl) rfl
  | cancel build => exact of_mapTask member fun _ => ⟨rfl, rfl, by simp⟩
  | abort build => exact of_mapTask member fun _ => ⟨rfl, rfl, id⟩

theorem of_foldl (member : task ∈ (effects.foldl .perform system).tasks) :
    Descends system effects task := by
  induction effects generalizing system with
  | nil => exact .refl member
  | cons effect rest ih =>
      cases ih member with
      | begun start stage => exact .begun (List.mem_cons_of_mem _ start) stage
      | @kept middle among build stage cancelled =>
          cases of_perform among with
          | begun start starting =>
              rw [List.mem_singleton] at start
              exact .begun (by simp [start, build]) (stage.trans starting)
          | kept earlier sameBuild sameStage alsoCancelled =>
              exact .kept earlier (build.trans sameBuild) (stage.trans sameStage)
                (alsoCancelled ∘ cancelled)

theorem of_adopt {decided : Scheduler × List Effect}
    (member : task ∈ (system.adopt decided).1.tasks) : Descends system decided.2 task := by
  rw [BuildSystem.adopt, BuildSystem.foldl_perform_of_scheduler] at member
  exact of_foldl member

end Descends

variable {system : BuildSystem} {action : BuildAction} {moved : BuildSystem × List Effect}
  {task : BuildTask}

def BuildSystem.actor? (system : BuildSystem) (action : BuildAction) : Option BuildTask :=
  action.build?.bind system.task?

theorem BuildSystem.mem_of_actor? (acting : system.actor? action = some task) :
    task ∈ system.tasks := by
  obtain ⟨number, -, found⟩ := Option.bind_eq_some_iff.mp acting
  exact List.mem_of_find?_eq_some found

/-- A task after an action was there before or begins, and then no task has moved on, or the action
was its own. -/
theorem Coherent.task_cases (coherent : Coherent system)
    (possible : system.step? action = some moved) (member : task ∈ moved.1.tasks) :
    (Descends system moved.2 task ∧
      ∀ number, action.build? = some number → action = .unwind number) ∨
    ∃ earlier compilers log, system.actor? action = some earlier ∧
      system.Progress earlier action task.stage compilers log ∧
      task = { earlier with stage := task.stage } := by
  cases BuildSystem.happens_of_step? possible with
  | passed | edited | closed => exact .inl ⟨.refl member, fun _ other => by cases other⟩
  | @progressed _ number earlier stage compilers log acting found progress =>
      obtain ⟨tasks, -⟩ := coherent.tasks_of_task? found
      have same : task = { earlier with stage } := by
        simpa [BuildSystem.advanced, BuildSystem.setStage, BuildSystem.mapTask, tasks] using member
      subst task
      exact .inr ⟨earlier, compilers, log, by simp [BuildSystem.actor?, acting, found], progress,
        rfl⟩
  | unwound =>
      have kept := List.mem_of_mem_filter member
      rw [BuildSystem.release_eq] at kept
      exact .inl ⟨.refl kept, fun _ same => by rw [← Option.some.inj same]⟩
  | changed | woken => exact .inl ⟨Descends.of_adopt member, fun _ other => by cases other⟩
  | stopped | left =>
      exact .inl ⟨(Descends.of_adopt member).mono (List.Subset.refl _),
        fun _ other => by cases other⟩
  | finished =>
      exact .inl ⟨(Descends.of_adopt member).mono fun _ among => List.mem_of_mem_filter among,
        fun _ other => by cases other⟩

end BuildWatch

import BuildWatch.Debounce
import Mathlib

/-!
What a timer waits for. Whoever asks it settles the time at which it may next be believed, and a
wake before that time only makes it run again; so a wake is accepted at the time of the latest
request or after it, and never before.
-/

namespace BuildWatch.Delay

/-- The timer runs, the latest request is for `due`, and it does not wake later than that. -/
structure WaitsFor (delay : Delay) (due : Time) : Prop where
  armed : delay.armed = true
  requested : delay.requested.getD delay.wake = due
  wake_le : delay.wake ≤ due

variable {delay : Delay} {now wait due : Time}

theorem trigger_armed (delay : Delay) (now wait : Time) :
    (delay.trigger now wait).armed = true := by
  unfold trigger
  split
  · rename_i still
    exact still.1
  · rfl

theorem trigger_waitsFor (delay : Delay) (now wait : Time) :
    (delay.trigger now wait).WaitsFor (now + wait) := by
  unfold trigger
  split
  · rename_i later
    exact ⟨later.1, rfl, later.2⟩
  · exact ⟨rfl, rfl, Nat.le_refl _⟩

theorem le_trigger_wake (early : delay.armed = true → now ≤ delay.wake) (wait : Time) :
    now ≤ (delay.trigger now wait).wake := by
  unfold trigger
  split
  · rename_i later
    exact early later.1
  · exact Nat.le_add_right ..

theorem armed_of_isDue (woke : delay.isDue now = true) : delay.armed = true := by
  simp only [isDue, Bool.and_eq_true] at woke
  exact woke.1

theorem wake_le_of_isDue (woke : delay.isDue now = true) : delay.wake ≤ now := by
  simp only [isDue, Bool.and_eq_true, decide_eq_true_eq] at woke
  exact woke.2

namespace WaitsFor

theorem remaining_eq (waits : delay.WaitsFor due) (woke : delay.isDue now = true) :
    delay.woken.remaining now = due - now := by
  have requested := waits.requested
  have reached := wake_le_of_isDue woke
  change delay.remaining now = due - now
  unfold remaining
  cases recorded : delay.requested with
  | some request =>
      rw [recorded, Option.getD_some] at requested
      rw [requested]
  | none =>
      rw [recorded, Option.getD_none] at requested
      lia

theorem onWake_of_le (waits : delay.WaitsFor due) (woke : delay.isDue now = true)
    (reached : due ≤ now) : delay.onWake now = (delay.woken, true) := by
  have nothing : delay.woken.remaining now = 0 := by
    rw [waits.remaining_eq woke]
    lia
  simp [onWake, nothing]

theorem onWake_of_lt (waits : delay.WaitsFor due) (woke : delay.isDue now = true)
    (early : now < due) : delay.onWake now = (delay.woken.trigger now (due - now), false) := by
  have something : delay.woken.remaining now ≠ 0 := by
    rw [waits.remaining_eq woke]
    lia
  unfold onWake
  simp only [if_neg something]
  rw [waits.remaining_eq woke]

theorem reached (waits : delay.WaitsFor due) (woke : delay.isDue now = true)
    (accepted : (delay.onWake now).2 = true) : due ≤ now := by
  by_contra early
  rw [waits.onWake_of_lt woke (by lia)] at accepted
  simp at accepted

theorem postponed (waits : delay.WaitsFor due) (woke : delay.isDue now = true)
    (refused : (delay.onWake now).2 = false) : (delay.onWake now).1.WaitsFor due := by
  have early : now < due := by
    by_contra late
    rw [waits.onWake_of_le woke (by lia)] at refused
    simp at refused
  have whole : now + (due - now) = due := by lia
  have again := trigger_waitsFor delay.woken now (due - now)
  rw [waits.onWake_of_lt woke early]
  rwa [whole] at again

end WaitsFor

theorem onWake_cases (delay : Delay) (now : Time) :
    (delay.onWake now).2 = true ∨ (delay.onWake now).1.armed = true := by
  unfold onWake
  simp only
  split
  · exact .inl rfl
  · exact .inr (trigger_armed ..)

theorem le_onWake_wake (refused : (delay.onWake now).2 = false) :
    now ≤ (delay.onWake now).1.wake := by
  unfold onWake at refused ⊢
  simp only at refused ⊢
  split at refused
  · simp at refused
  · rename_i remains
    rw [if_neg remains]
    exact le_trigger_wake (by simp [woken]) _

/-- What a loop may do with its timer and with its wish for a build: nothing, ask the timer and
perhaps give up the wish, accept a wake or ask for the time that remains, or pass a wake over
because nothing could be built. The `Bool` after the two says whether the timer was asked. -/
inductive Moves (now wait : Time) (hears : Bool) (delay : Delay) (wants : Bool) :
    Bool → Delay → Bool → Prop
  | kept : Moves now wait hears delay wants false delay wants
  | asked {left} : (left = true → wants = true) →
      Moves now wait hears delay wants true (delay.trigger now wait) left
  | accepted : delay.isDue now = true → (delay.onWake now).2 = true →
      Moves now wait hears delay wants false (delay.onWake now).1 true
  | postponed : delay.isDue now = true → (delay.onWake now).2 = false →
      Moves now wait hears delay wants false (delay.onWake now).1 wants
  | ignored : hears = false → delay.isDue now = true →
      Moves now wait hears delay wants false delay.woken wants

variable {next : Delay} {limit : Time} {hears wants asks left : Bool} {asked : List Time}

theorem Moves.waitsFor (moves : Moves now wait hears delay wants asks next left)
    (asked : asks = true) : next.WaitsFor (now + wait) := by
  cases moves with
  | asked => exact trigger_waitsFor ..
  | kept | accepted | postponed | ignored => simp at asked

/-- The timer was asked at some times and waits for the last of them. -/
structure Follows (wait : Time) (asked : List Time) (now : Time) (delay : Delay) : Prop where
  past : ∀ time ∈ asked, time ≤ now
  armed : delay.armed = true → ∃ last, asked.getLast? = some last ∧ delay.WaitsFor (last + wait)

theorem Follows.later {moment : Time} (follows : Follows wait asked now delay)
    (passed : now ≤ moment) : Follows wait asked moment delay :=
  ⟨fun time member => Nat.le_trans (follows.past time member) passed, follows.armed⟩

theorem Follows.moves (follows : Follows wait asked now delay)
    (moves : Moves now wait hears delay wants asks next left) :
    Follows wait (asked ++ if asks then [now] else []) now next := by
  cases moves with
  | kept => simpa using follows
  | asked =>
      refine ⟨?_, fun _ => ⟨now, by simp, trigger_waitsFor ..⟩⟩
      intro time member
      rcases List.mem_append.mp member with earlier | latest
      · exact follows.past time earlier
      · have same : time = now := by simpa using latest
        exact Nat.le_of_eq same
  | accepted woke accepted =>
      obtain ⟨last, -, waits⟩ := follows.armed (armed_of_isDue woke)
      have off : (delay.onWake now).1 = delay.woken := by
        rw [waits.onWake_of_le woke (waits.reached woke accepted)]
      refine ⟨by simpa using follows.past, fun armed => ?_⟩
      simp [off, woken] at armed
  | postponed woke refused =>
      obtain ⟨last, latest, waits⟩ := follows.armed (armed_of_isDue woke)
      exact ⟨by simpa using follows.past, fun _ => ⟨last, by simpa using latest,
        waits.postponed woke refused⟩⟩
  | ignored => exact ⟨by simpa using follows.past, nofun⟩

def HoldsUntil (limit now : Time) (delay : Delay) (wants : Bool) : Prop :=
  now < limit → wants = false ∧
    (delay.armed = true → ∃ due, limit ≤ due ∧ delay.WaitsFor due)

theorem HoldsUntil.moves (holds : HoldsUntil limit now delay wants) (soon : limit ≤ now + wait)
    (moves : Moves now wait hears delay wants asks next left) :
    HoldsUntil limit now next left := by
  intro early
  obtain ⟨unwanted, waiting⟩ := holds early
  cases moves with
  | kept => exact ⟨unwanted, waiting⟩
  | asked kept =>
      refine ⟨?_, fun _ => ⟨now + wait, soon, trigger_waitsFor ..⟩⟩
      cases left with
      | true => simp [unwanted] at kept
      | false => rfl
  | accepted woke accepted =>
      obtain ⟨due, far, waits⟩ := waiting (armed_of_isDue woke)
      have reached := waits.reached woke accepted
      exact absurd (Nat.le_trans far reached) (Nat.not_le.mpr early)
  | postponed woke refused =>
      obtain ⟨due, far, waits⟩ := waiting (armed_of_isDue woke)
      exact ⟨unwanted, fun _ => ⟨due, far, waits.postponed woke refused⟩⟩
  | ignored => exact ⟨unwanted, nofun⟩

/-- What a loop makes of its timer and its wish in one turn: it does one of those things, and then
starts the build that is wanted if it can. -/
def Turns {Build : Type} (now wait : Time) (hears : Bool) (delay : Delay) (wants asks : Bool)
    (next : Delay) (left : Bool) (started : List Build) : Prop :=
  ∃ wish, Moves now wait hears delay wants asks next wish ∧
    (wish = false → left = false ∧ started = [])

theorem Turns.waitsFor {Build : Type} {started : List Build}
    (turns : Turns now wait hears delay wants asks next left started) (asked : asks = true) :
    next.WaitsFor (now + wait) := by
  obtain ⟨wish, moves, -⟩ := turns
  exact moves.waitsFor asked

/-- Until `limit` no build is started, as far as the loop goes on at all. -/
structure HeldBack (limit wait now : Time) (goes : Prop) (delay : Delay) (wants : Bool)
    (starts : List Time) : Prop where
  soon : limit ≤ now + wait
  holds : goes → HoldsUntil limit now delay wants
  late : ∀ time ∈ starts, limit ≤ time

namespace HeldBack

variable {Build : Type} {moment : Time} {going goes : Prop} {starts : List Time}
  {started : List Build}

theorem of_asked (passed : now ≤ moment) (asked : goes → next.WaitsFor (now + wait)) :
    HeldBack (now + wait) wait moment goes next false [] :=
  ⟨Nat.add_le_add_right passed _,
    fun going _ => ⟨rfl, fun _ => ⟨_, Nat.le_refl _, asked going⟩⟩, nofun⟩

theorem step (held : HeldBack limit wait now going delay wants starts) (passed : now ≤ moment)
    (turns : goes → going ∧ Turns now wait hears delay wants asks next left started)
    (ended : ¬goes → started = []) :
    HeldBack limit wait moment goes next left (starts ++ started.map fun _ => now) := by
  refine ⟨?_, fun going early => ?_, fun time member => ?_⟩
  · have soon := held.soon
    lia
  · obtain ⟨went, wish, moves, launched⟩ := turns going
    have before := Nat.lt_of_le_of_lt passed early
    obtain ⟨unwanted, waits⟩ := (held.holds went).moves held.soon moves before
    exact ⟨(launched unwanted).1, waits⟩
  · rcases List.mem_append.mp member with earlier | new
    · exact held.late time earlier
    · obtain ⟨build, built, rfl⟩ := List.mem_map.mp new
      by_contra early
      have going : goes := by
        by_contra gone
        simp [ended gone] at built
      obtain ⟨went, wish, moves, launched⟩ := turns going
      have unwanted := ((held.holds went).moves held.soon moves (Nat.not_le.mp early)).1
      simp [(launched unwanted).2] at built

end HeldBack

end BuildWatch.Delay

import BuildWatch.Proofs.Broadcast.Renaming
import BuildWatch.Proofs.Terminal.Render
import BuildWatch.Terminal.Display

/-!
What the terminal loop sends about each build. It never goes back, tells of nothing twice, and
whenever it has nothing left to read the latest state was told last, however often the loop was
dropped as too slow. While nothing new comes it gets there.
-/

namespace BuildWatch

variable {α : Type}

namespace Feed

/-- The numbers of the values shown, by the order in which the values came; the first one of all has
the number zero. No value is looked at: each stands for its number. -/
def places (capacity : Nat) (actions : List (FeedAction α)) : List Nat :=
  ((create 0 capacity).run (numbered 1 actions)).2

/-- What was sent tells of values one after the other, those left out that need not be told. -/
inductive Accounts (told : α → String → Prop) (silent : α → Prop) :
    List α → List (List Piece) → Prop
  | nothing : Accounts told silent [] []
  | told {value values pieces sent} : Terminal.Tells (told value) pieces →
      Accounts told silent values sent → Accounts told silent (value :: values) (pieces :: sent)
  | silent {value values sent} : silent value →
      Accounts told silent values sent → Accounts told silent (value :: values) sent

namespace Accounts

variable {told : α → String → Prop} {silent : α → Prop} {values more : List α}
  {sent further : List (List Piece)}

theorem append (accounts : Accounts told silent values sent)
    (others : Accounts told silent more further) :
    Accounts told silent (values ++ more) (sent ++ further) := by
  induction accounts with
  | nothing => exact others
  | told tells _ ih => exact .told tells ih
  | silent quiet _ ih => exact .silent quiet ih

theorem last {value : α} (accounts : Accounts told silent values sent)
    (latest : values.getLast? = some value) :
    silent value ∨ ∃ pieces, sent.getLast? = some pieces ∧ Terminal.Tells (told value) pieces := by
  induction accounts with
  | nothing => simp at latest
  | @told first values pieces sent tells accounts ih =>
      cases accounts with
      | nothing =>
          obtain rfl : first = value := by simpa using latest
          exact .inr ⟨pieces, rfl, tells⟩
      | told others | silent others =>
          rw [List.getLast?_cons_cons] at latest
          rcases ih latest with quiet | ⟨last, same, tells⟩
          · exact .inl quiet
          · exact .inr ⟨last, by rw [List.getLast?_cons, same]; rfl, tells⟩
  | @silent first values sent quiet accounts ih =>
      cases accounts with
      | nothing =>
          obtain rfl : first = value := by simpa using latest
          exact .inl quiet
      | told others | silent others =>
          rw [List.getLast?_cons_cons] at latest
          exact ih latest

end Accounts

/-- A queue for one value: of four, the third comes while it is full, and the follower shows the
fourth when it has subscribed again. -/
example : places 1 ([.next, .other (.publish ()), .other (.publish ()), .next, .next,
    .other (.publish ()), .next] : List (FeedAction Unit)) = [0, 1, 3] := by
  decide

end Feed

/-- A step of the terminal loop, or something that others do with the states of the builds. -/
inductive DisplayAction where
  | showCode (clock : String)
  | showMusic (verbose : Bool)
  | stop
  | code (action : BroadcastAction BuildState)
  | music (action : BroadcastAction MusicState)

namespace DisplayAction

end DisplayAction

/-- A display, and what each turn has sent about each build. -/
structure Screen where
  display : Display
  codeTurns : List (List Piece)
  musicTurns : List (List Piece)

namespace Screen

def create (capacity : Nat) : Screen := ⟨.create capacity, [], []⟩

/-- What becomes of a screen; while there is nothing to show, nothing changes. -/
def step (screen : Screen) : DisplayAction → Screen
  | .showCode clock =>
    match screen.display.showCode? clock with
    | some (display, _, pieces) =>
      { screen with display, codeTurns := screen.codeTurns ++ [pieces] }
    | none => screen
  | .showMusic verbose =>
    match screen.display.showMusic? verbose with
    | some (display, _, pieces) =>
      { screen with display, musicTurns := screen.musicTurns ++ [pieces] }
    | none => screen
  | .stop => { screen with display := screen.display.stop }
  | .code action =>
    { screen with
      display := { screen.display with code := (screen.display.code.step (.other action)).1 } }
  | .music action =>
    { screen with
      display := { screen.display with music := (screen.display.music.step (.other action)).1 } }

def run (screen : Screen) (actions : List DisplayAction) : Screen :=
  actions.foldl step screen

/-- What was sent about a build, turn by turn; turns that sent nothing are left out. -/
def sent (turns : List (List Piece)) : List (List Piece) :=
  turns.filter fun pieces => !pieces.isEmpty

theorem sent_append_singleton (turns : List (List Piece)) (pieces : List Piece) :
    sent (turns ++ [pieces]) = sent turns ++ if pieces = [] then [] else [pieces] := by
  cases pieces <;> simp [sent]

/-- What an action on the screen is for one of the builds: nothing, or a step of its follower and
what is sent for that. -/
inductive Follows (told : α → String → Prop) (silent : α → Prop) (feed : Feed α)
    (turns : List (List Piece)) : Option (FeedAction α) → Feed α → List (List Piece) → Prop
  | aside : Follows told silent feed turns none feed turns
  | acts {change pieces next after} : next = (feed.step change).1 →
      sent after = sent turns ++ pieces →
      Feed.Accounts told silent (feed.step change).2.toList pieces →
      Follows told silent feed turns (some change) next after

namespace Follows

variable {told : α → String → Prop} {silent : α → Prop} {feed reached : Feed α}
  {turns taken : List (List Piece)} {change : FeedAction α}

theorem quiet (moved : reached = (feed.step change).1) (nothing : (feed.step change).2 = none) :
    Follows told silent feed turns (some change) reached turns :=
  .acts moved (List.append_nil _).symm (by rw [nothing]; exact .nothing)

theorem waits (found : feed.next? = none) :
    Follows told silent feed turns (some .next) feed turns :=
  .quiet (by simp [Feed.step, found]) (by simp [Feed.step, found])

theorem passed (found : feed.next? = some (reached, none)) :
    Follows told silent feed turns (some .next) reached (turns ++ [[]]) := by
  refine .acts (by simp [Feed.step, found]) (sent_append_singleton ..) ?_
  simpa [Feed.step, found] using Feed.Accounts.nothing

theorem kept (follows : Follows told silent feed turns none reached taken) : reached = feed := by
  cases follows with
  | aside => rfl

end Follows

end Screen

end BuildWatch

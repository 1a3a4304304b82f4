import BuildWatch.Broadcast.Follower
import BuildWatch.Terminal.Render

/-!
The loop that shows both builds on the terminal. It follows the states of each and shows them in one
status block; when there is something to show of both, the code comes first.
-/

namespace BuildWatch

structure Display where
  code : Feed BuildState
  music : Feed MusicState
  block : StatusBlock

namespace Display

def create (capacity : Nat) : Display :=
  ⟨.create .loading capacity, .create .loading capacity, .fresh⟩

/-- What the display does next about the code: its new state, the state of the build that it shows,
if any, and what is sent to the terminal for that. -/
def showCode? (display : Display) (clock : String) :
    Option (Display × Option BuildState × List Piece) :=
  display.code.next?.map fun (code, shown) =>
    match shown with
    | some state =>
      let (pieces, block) := state.render clock display.block
      ({ display with code, block }, shown, pieces)
    | none => ({ display with code }, none, [])

def showMusic? (display : Display) (verbose : Bool) :
    Option (Display × Option MusicState × List Piece) :=
  display.music.next?.map fun (music, shown) =>
    match shown with
    | some state =>
      let (pieces, block) := state.render verbose display.block
      ({ display with music, block }, shown, pieces)
    | none => ({ display with music }, none, [])

def turn? (display : Display) (clock : String) (verbose : Bool) :
    Option (Display × List Piece) :=
  match display.showCode? clock with
  | some (display, _, pieces) => some (display, pieces)
  | none => (display.showMusic? verbose).map fun (display, _, pieces) => (display, pieces)

def stop (display : Display) : Display :=
  { display with code := display.code.leave, music := display.music.leave }

end Display

end BuildWatch

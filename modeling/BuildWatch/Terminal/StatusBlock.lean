import BuildWatch.Terminal.Output

/-!
The block at the foot of the terminal that tells how the latest build went. Each message takes the
place of the one before it, as long as nothing else was printed below.
-/

namespace BuildWatch

/-- How many lines the block takes that the next message replaces; none after it was left
alone. -/
structure StatusBlock where
  height : Nat
  deriving DecidableEq, Repr

namespace StatusBlock

open Terminal

def twoDigits (number : Nat) : String :=
  if number < 10 then "0" ++ toString number else toString number

def timeOfDay (seconds : Nat) : String :=
  twoDigits (seconds / 3600 % 24) ++ ":" ++ twoDigits (seconds / 60 % 60) ++ ":" ++
    twoDigits (seconds % 60)

def fresh : StatusBlock := ⟨0⟩

/-- The terminal counts lines in sixteen bits. -/
def heightLimit : Nat := 1 <<< 16

def erase (block : StatusBlock) : List Piece :=
  if block.height = 0 then [] else [.moveUp (block.height % heightLimit), .clearBelow]

def lineEnds (text : String) : Nat :=
  text.toList.count '\n'

def display (block : StatusBlock) (clock symbol message : String) : List Piece × StatusBlock :=
  let mark := if symbol = "" then "" else symbol ++ " "
  (block.erase ++ [.text (dimmed ("[" ++ clock ++ "]") ++ " " ++ mark ++ message ++ "\n")],
    ⟨lineEnds message + 1⟩)

def success (block : StatusBlock) (clock message : String) : List Piece × StatusBlock :=
  block.display clock (coloured 32 "✓") message

def pending (block : StatusBlock) (clock message : String) : List Piece × StatusBlock :=
  block.display clock "" (dimmed message)

def failure (block : StatusBlock) (clock summary detail : String) : List Piece × StatusBlock :=
  block.display clock (coloured 31 "✗")
    (if detail = "" then summary else summary ++ "\n" ++ detail)

def warning (block : StatusBlock) (clock message : String) : List Piece × StatusBlock :=
  block.display clock (coloured 33 "⚠") message

def detach (_ : StatusBlock) : StatusBlock := fresh

end StatusBlock

end BuildWatch

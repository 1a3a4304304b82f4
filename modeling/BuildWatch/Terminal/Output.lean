import BuildWatch.Diagnostic
import BuildWatch.Log

/-!
What is sent to a terminal, as a list of pieces, and the form of a log line. A log line clears the
rest of the line it starts on, and its channel stands in brackets in a colour of its own.
-/

namespace BuildWatch

/-- A text or an order to the terminal. -/
inductive Piece where
  | text (text : String)
  | clearLine
  | clearBelow
  | moveUp (lines : Nat)
  deriving DecidableEq, Repr

namespace Terminal

def escape (order : String) : String :=
  "\x1b[" ++ order

end Terminal

def Piece.send : Piece → String
  | .text content => content
  | .clearLine => Terminal.escape "K"
  | .clearBelow => Terminal.escape "J"
  | .moveUp lines => Terminal.escape (toString lines ++ "A")

namespace Terminal

def send (pieces : List Piece) : String :=
  String.join (pieces.map Piece.send)

def coloured (colour : Nat) (text : String) : String :=
  escape (toString colour ++ "m") ++ text ++ escape "39m"

def bold (text : String) : String :=
  escape "1m" ++ text ++ escape "0m"

def dimmed (text : String) : String :=
  escape "2m" ++ text ++ escape "0m"

def channelColour (channel : String) : Nat :=
  match String.ofList (channel.toList.map Char.toLower) with
  | "serve" => 94
  | "watch" => 92
  | "error" => 91
  | "warning" => 33
  | "notice" => 96
  | "music" => 95
  | _ => 93

def logPieces (entry : LogEntry) : List Piece :=
  [.clearLine,
    .text (bold (coloured (channelColour entry.channel) ("[" ++ entry.channel ++ "]")) ++ " " ++
      entry.message ++ "\n")]

def logOutput (verbose : Bool) (entries : List LogEntry) : String :=
  send ((entries.filter (LogEntry.isShown verbose)).flatMap logPieces)

/-- The length of an order at the start of a text: ESC, a bracket, digits and semicolons, and a
letter. -/
def orderLength? : List Char → Option Nat
  | '\x1b' :: '[' :: rest =>
    let numbers := rest.takeWhile fun char => char.isDigit || char = ';'
    match rest.drop numbers.length with
    | final :: _ => if final.isAlpha then some (numbers.length + 3) else none
    | [] => none
  | _ => none

def plainChars (skipped : Nat) : List Char → List Char
  | [] => []
  | char :: rest =>
    match skipped with
    | skipped + 1 => plainChars skipped rest
    | 0 =>
      match orderLength? (char :: rest) with
      | some length => plainChars (length - 1) rest
      | none => char :: plainChars 0 rest

def plainLines (output : String) : List String :=
  let lines := (String.ofList (plainChars 0 output.toList)).splitOn "\n"
  if lines.getLast? = some "" then lines.dropLast else lines

def logLines (verbose : Bool) (entries : List LogEntry) : List String :=
  plainLines (logOutput verbose entries)

end Terminal

def Diagnostic.logEntry (diagnostic : Diagnostic) : LogEntry :=
  .info diagnostic.severity.label diagnostic.display

end BuildWatch

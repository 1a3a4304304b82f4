import BuildWatch.Simulation.Shell.Edit

/-!
The program that edits lines by a script. The commands run once for each line, on a text that they
may change; at their end the text is printed.
-/

namespace BuildWatch.Simulation.Shell

inductive RangeState where
  | outside
  | upTo (line : Nat)
  | untilMatch
  deriving DecidableEq

/-- The state of an edit. Lines are kept without their ends; the last one may have none, and then
`owesEnd` says that the output lacks it too. -/
structure EditState where
  lines : List String
  lastLacksEnd : Bool
  number : Nat
  space : List Char
  owesEnd : Bool
  output : List String
  ranges : Array RangeState
  lastRegex : Option Regex

namespace EditState

def put (state : EditState) (text : String) : EditState :=
  let owed := if state.owesEnd then ["\n"] else []
  { state with output := text :: (owed ++ state.output), owesEnd := false }

def putLine (state : EditState) : EditState :=
  let text := String.ofList state.space
  if state.lines.isEmpty && state.lastLacksEnd then { state.put text with owesEnd := true }
  else state.put (text ++ "\n")

def isLast (state : EditState) : Bool := state.lines.isEmpty

def finds (state : EditState) (regex : Option Regex) : Bool :=
  match regex.or state.lastRegex with
  | some regex => (regex.find state.space.toArray 0).isSome
  | none => false

end EditState

def EditAddress.holds (address : EditAddress) (state : EditState) : Bool :=
  match address with
  | .line number => state.number = number
  | .last => state.isLast
  | .regex own => state.finds own

def EditAddress.rangeAfter (ending : EditAddress) (state : EditState) : RangeState :=
  match ending with
  | .line number => if number ≤ state.number then .outside else .upTo number
  | .last => if state.isLast then .outside else .untilMatch
  | .regex _ => .untilMatch

def EditSelection.holds (selection : EditSelection) (index : Nat) (state : EditState) :
    Bool × EditState :=
  let used (address : EditAddress) : EditState :=
    match address with
    | .regex (some regex) => { state with lastRegex := some regex }
    | _ => state
  let (holds, state) := match selection.first, selection.ending with
    | none, _ => (true, state)
    | some address, none => (address.holds state, used address)
    | some first, some ending =>
      let set (state : EditState) (range : RangeState) : EditState :=
        { state with ranges := state.ranges.setIfInBounds index range }
      match (state.ranges[index]?).getD .outside with
      | .outside =>
        if first.holds state then (true, set (used first) (ending.rangeAfter state))
        else (false, used first)
      | .upTo line =>
        (state.number ≤ line, if line ≤ state.number then set state .outside else state)
      | .untilMatch =>
        (true, if ending.holds state then set (used ending) .outside else used ending)
  (holds != selection.isNegated, state)

def replace (parts : List ReplacementPart) (group : Nat → List Char) : List Char :=
  parts.flatMap fun part =>
    match part with
    | .text char => [char]
    | .group index => group index

def substituteFrom (regex : Regex) (substitute : Substitute) (text : Array Char) :
    Nat → Nat → Nat → Option Nat → List Char × Bool
  | 0, _, place, _ => ((text.extract place text.size).toList, false)
  | fuel + 1, count, place, lastEnd =>
    match regex.find text place with
    | none => ((text.extract place text.size).toList, false)
    | some (start, found) =>
      let before := (text.extract place start).toList
      let isEmpty := found.ending = start
      /- What follows when the match is passed over with a text in its place. -/
      let pass (shown : List Char) (isReplaced : Bool) (count : Nat) : List Char × Bool :=
        if isEmpty then
          match text[start]? with
          | some char =>
            let (rest, others) :=
              substituteFrom regex substitute text fuel count (start + 1) (some found.ending)
            (before ++ shown ++ char :: rest, isReplaced || others)
          | none => (before ++ shown, isReplaced)
        else
          let (rest, others) :=
            substituteFrom regex substitute text fuel count found.ending (some found.ending)
          (before ++ shown ++ rest, isReplaced || others)
      if isEmpty && lastEnd = some start then pass [] false count
      else
        let whole := (text.extract start found.ending).toList
        let shown := replace substitute.parts (found.group text start)
        if count < substitute.number then pass whole false (count + 1)
        else if substitute.isGlobal then pass shown true (count + 1)
        else (before ++ shown ++ (text.extract found.ending text.size).toList, true)

inductive EditOutcome where
  | done
  | deleted
  | ended
  deriving DecidableEq

def EditAction.perform (action : EditAction) (state : EditState) : EditOutcome × EditState :=
  match action with
  | .substitution substitute =>
    match substitute.regex.or state.lastRegex with
    | none => (.done, state)
    | some regex =>
      let text := state.space.toArray
      let (space, isReplaced) := substituteFrom regex substitute text (2 * text.size + 4) 1 0 none
      let state := { state with lastRegex := some regex }
      if isReplaced then
        (.done, (List.range substitute.prints).foldl (fun state _ => state.putLine)
          { state with space })
      else (.done, state)
  | .plain '=' => (.done, state.put (toString state.number ++ "\n"))
  | .plain 'p' => (.done, state.putLine)
  | .plain 'd' => (.deleted, state)
  | .plain _ => (.ended, state)

def runCommands (index : Nat) (state : EditState) : List EditCommand → EditOutcome × EditState
  | [] => (.done, state)
  | command :: rest =>
    let (holds, state) := command.selection.holds index state
    if !holds then runCommands (index + 1) state rest
    else match command.action.perform state with
      | (.done, state) => runCommands (index + 1) state rest
      | stopped => stopped

def runCycles (isQuiet : Bool) (commands : List EditCommand) :
    Nat → EditState → Bool × EditState
  | 0, state => (false, state)
  | fuel + 1, state =>
    match state.lines with
    | [] => (false, state)
    | line :: rest =>
      let state :=
        { state with lines := rest, number := state.number + 1, space := line.toList }
      let printed (state : EditState) : EditState := if isQuiet then state else state.putLine
      match runCommands 0 state commands with
      | (.done, state) => runCycles isQuiet commands fuel (printed state)
      | (.deleted, state) => runCycles isQuiet commands fuel state
      | (.ended, state) => (true, printed state)

def edit (isQuiet : Bool) (commands : Array EditCommand) (text : String) : String × Bool :=
  let lines := text.splitOn "\n"
  let endsOpen := lines.getLast? ≠ some ""
  let start : EditState := {
    lines := if endsOpen then lines else lines.dropLast
    lastLacksEnd := endsOpen
    number := 0
    space := []
    owesEnd := false
    output := []
    ranges := commands.map fun _ => .outside
    lastRegex := none }
  let (hasQuit, state) := runCycles isQuiet commands.toList lines.length start
  (String.join state.output.reverse, hasQuit)

def editablePart (text : String) : String :=
  let chars := text.toList.reverse
  let chars := if chars.head? = some '\n' then chars.drop 1 else chars
  String.ofList (chars.dropWhile (· ≠ '\n')).reverse

def runEditor : Program :=
  withOptions "sed" 1 [flag 'n' "quiet", flag 'n' "silent", valued 'e' "expression",
      flag 'E' "regexp-extended", flag 'r' ""] fun options => do
    match options.has "e", options.operands with
    | false, [] =>
      complain "Usage: sed [OPTION]... \x7bscript-only-if-no-other-script\x7d [input-file]...\n"
      return 1
    | isGiven, operands =>
      let script := if isGiven then String.intercalate "\n" (options.valuesOf "e")
        else operands.headD ""
      let files := if isGiven then operands else operands.drop 1
      match editCommandsOf (options.has "E" || options.has "r") script with
      | .error (place, reason) =>
        refuse "sed" ("-e expression #1, char " ++ toString place ++ ": " ++ reason)
      | .ok commands =>
        let mut text := ""
        let mut isComplete := true
        let mut status := 0
        for file in if files.isEmpty then ["-"] else files do
          match ← contentSoFar file with
          | .ok reading =>
            let owes := text ≠ "" && !text.endsWith "\n" && reading.bytes.size ≠ 0
            text := text ++ (if owes then "\n" else "") ++ octets reading.bytes
            isComplete := isComplete && reading.isComplete
          | .error error =>
            status := 2
            if error = .isADirectory then
              complainFor "sed" ("couldn" ++ String.singleton singleQuote ++ "t edit " ++ file ++
                ": not a regular file")
            else
              complainFor "sed" ("can" ++ String.singleton singleQuote ++ "t read " ++ file ++
                ": " ++ errorName error)
        let (output, hasQuit) :=
          edit (options.has "n") commands (if isComplete then text else editablePart text)
        waitUnless (isComplete || hasQuit)
        print output
        return status

end BuildWatch.Simulation.Shell

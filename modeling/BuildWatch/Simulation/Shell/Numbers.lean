import BuildWatch.Simulation.Shell.BuiltIn
import BuildWatch.Simulation.Shell.Option
import BuildWatch.Simulation.Shell.Regex

/-!
Programs that count: sequences of numbers, and the time to sleep.
-/

namespace BuildWatch.Simulation.Shell

def countUp (step last : Int) : Nat → Int → List Int
  | 0, _ => []
  | fuel + 1, value =>
    if if 0 < step then last < value else value < last then []
    else value :: countUp step last fuel (value + step)

def splitNumbers : List String → List String × List String
  | "-s" :: separator :: rest =>
    let (options, numbers) := splitNumbers rest
    ("-s" :: separator :: options, numbers)
  | word :: rest =>
    if word.startsWith "-" && word.toInt?.isNone then
      let (options, numbers) := splitNumbers rest
      (word :: options, numbers)
    else ([], word :: rest)
  | [] => ([], [])

def runSequence : Program := fun arguments =>
  let (options, operands) := splitNumbers arguments
  withOptions "seq" 1 [valued 's' "separator"]
    (fun options => do
      match operands.find? fun text => text.toInt?.isNone with
      | some text =>
        if operands.length ≤ 3 then
          return ← misuse "seq" ("invalid floating point argument: " ++ quotedName text) 1
      | none => pure ()
      let go (first step last : Int) : Action Nat := do
        if step = 0 then
          return ← misuse "seq" ("invalid Zero increment value: " ++
            quotedName (operands[1]?.getD "")) 1
        let values := countUp step last ((last - first).natAbs / step.natAbs + 2) first
        let separator := (options.value? "s").getD "\n"
        if !values.isEmpty then
          print (String.intercalate separator (values.map toString) ++ "\n")
        return 0
      match operands, operands.filterMap String.toInt? with
      | [], _ => missingOperand "seq" none
      | _ :: _ :: _ :: extra :: _, _ => extraOperand "seq" extra
      | _, [last] => go 1 1 last
      | _, [first, last] => go first 1 last
      | _, first :: step :: last :: _ => go first step last
      | _, [] => return 1) options

def duration? (text : String) : Option Nat :=
  let unit? (letter : Char) : Option Nat :=
    [('s', 1), ('m', 60), ('h', 3600), ('d', 86400)].lookup letter
  let (digits, factor) := match text.toList.getLast?.bind unit? with
    | some factor => (taken text (text.length - 1), factor)
    | none => (text, 1)
  let number? (digits : List Char) : Option Nat :=
    if digits.all Char.isDigit then some (digitsValue 10 digits) else none
  match digits.splitOn "." with
  | [whole] => if whole = "" then none else (number? whole.toList).map (· * factor * 1000)
  | [whole, places] =>
    if whole = "" && places = "" then none
    else (number? (whole ++ places).toList).map
      (· * factor * 1000 / Nat.pow 10 places.length)
  | _ => none

def sleepLimit : Nat := Nat.pow 10 15

def runSleep : Program :=
  withOptions "sleep" 1 [] fun options => do
    if options.operands.isEmpty then return ← missingOperand "sleep" none
    let wrong := options.operands.filter fun text =>
      text ≠ "infinity" && (duration? text).isNone
    if !wrong.isEmpty then
      for text in wrong do
        complainFor "sleep" ("invalid time interval " ++ quotedName text)
      referToHelp "sleep"
      return 1
    let time := (options.operands.map fun text => (duration? text).getD sleepLimit).foldl (· + ·) 0
    if sleepLimit ≤ time then throw .exhausted
    passTo ((← get).clock + time)
    return 0

end BuildWatch.Simulation.Shell

import BuildWatch.Simulation.Shell.Arithmetic
import BuildWatch.Simulation.Shell.Pattern

/-!
Expanding words: parameters, outputs of scripts and arithmetic are replaced by their values; what
was not quoted is split into fields, and fields that are patterns are replaced by the names they
match.
-/

namespace BuildWatch.Simulation.Shell

/-- A piece of an expanded word: a letter that belongs to a field for sure, one that may separate
fields, a place where quotes stood, or the place between two parameters. -/
inductive Piece where
  | letter (letter : Letter)
  | splittable (char : Char)
  | mark
  | next
  deriving DecidableEq, Repr

structure Manner where
  isQuoted : Bool
  splits : Bool

def Manner.pieces (manner : Manner) (value : String) : List Piece :=
  if manner.isQuoted then value.toList.map fun char => .letter ⟨char, true⟩
  else value.toList.map .splittable

def Machine.shownOptions (machine : Machine) : String :=
  String.ofList ("uaCvxnfe".toList.filter machine.options.contains)

def Machine.joint (machine : Machine) : String :=
  match machine.value? "IFS" with
  | some value => taken value 1
  | none => " "

def Machine.parameter? (machine : Machine) (name : String) : Option String :=
  match name with
  | "#" => some (toString machine.parameters.length)
  | "?" => some (toString machine.status)
  | "$" => some (toString machine.shellProcess)
  | "!" => machine.lastJob.map toString
  | "-" => some machine.shownOptions
  | "0" => some machine.name
  | "@" | "*" =>
    if machine.parameters.isEmpty then none
    else some (String.intercalate machine.joint machine.parameters)
  | name =>
    match name.toNat? with
    | some (index + 1) => machine.parameters[index]?
    | _ => machine.value? name

def Machine.parameterPieces (machine : Machine) (manner : Manner) (name : String) : List Piece :=
  if !manner.splits || name = "*" && manner.isQuoted then
    manner.pieces (String.intercalate machine.joint machine.parameters)
  else
    let own (parameter : String) : List Piece :=
      if manner.isQuoted then .mark :: manner.pieces parameter else manner.pieces parameter
    (machine.parameters.map own).intersperse [.next] |>.flatten

def lettersOfPieces (pieces : List Piece) : List Letter :=
  pieces.filterMap fun piece =>
    match piece with
    | .letter letter => some letter
    | .splittable char => some ⟨char, false⟩
    | .next => some ⟨' ', false⟩
    | .mark => none

def textOfPieces (pieces : List Piece) : String :=
  textOfLetters (lettersOfPieces pieces)

def homeOf? (home name : String) : Option String :=
  match name with
  | "" => some home
  | "root" => some "/root"
  | "daemon" => some "/usr/sbin"
  | "bin" => some "/bin"
  | "nobody" => some "/nonexistent"
  | _ => none

def endsTilde (isValue : Bool) (part : QuotablePart) : Bool :=
  part = ⟨.text "/", false⟩ || isValue && part = ⟨.text ":", false⟩

def withoutTildes (home : String) (isValue canStart : Bool) : Word → Word
  | [] => []
  | part :: rest =>
    let name := rest.takeWhile fun next => !endsTilde isValue next
    let place := if canStart && part = ⟨.text "~", false⟩ then
        (bareText? name).bind (homeOf? home)
      else none
    match place with
    | some place => ⟨.text place, true⟩ :: withoutTildes home isValue false (rest.drop name.length)
    | none => part :: withoutTildes home isValue (isValue && part = ⟨.text ":", false⟩) rest
termination_by word => word.length
decreasing_by all_goals simp only [List.length_cons, List.length_drop]; omega

abbrev Substitution := Nat → String → Action String

def isMissing (operator : String) (value : Option String) : Bool :=
  match value with
  | none => true
  | some value => operator.startsWith ":" && value = ""

def demandingOperators : List String := ["", "length", "%", "%%", "#", "##"]

def expandParameter (expandOperand : Manner → Word → Action (List Piece)) (manner : Manner)
    (name operator operand : String) : Action (List Piece) := do
  let machine ← get
  let value := machine.parameter? name
  let isList := name = "@" || name = "*"
  let isMissing := isMissing operator value
  let text := value.getD ""
  let all : List Piece :=
    if isList then machine.parameterPieces manner name else manner.pieces text
  let operandPieces : Action (List Piece) := do
    if manner.isQuoted then expandOperand manner (operandWord true operand)
    else
      let word := withoutTildes machine.home false true (operandWord false operand)
      return (← expandOperand manner word).map fun piece =>
        match piece with
        | .letter ⟨char, false⟩ => .splittable char
        | piece => piece
  let cut (without : Pattern → List Char → List Char) : Action (List Piece) := do
    let pieces ← expandOperand ⟨false, false⟩ (operandWord false operand)
    return manner.pieces
      (String.ofList (without (Pattern.ofLetters (lettersOfPieces pieces)) text.toList))
  if name = "" then fail "Bad substitution"
  if demandingOperators.contains operator && isMissing && !isList &&
      machine.options.contains 'u' then
    fail (name ++ ": parameter not set")
  match operator with
  | "" => return all
  | "length" => return manner.pieces (toString text.length)
  | "%" => cut (withoutEnd false)
  | "%%" => cut (withoutEnd true)
  | "#" => cut (withoutStart false)
  | "##" => cut (withoutStart true)
  | "+" | ":+" => if isMissing then return [] else operandPieces
  | _ =>
    if !isMissing then return all
    match operator with
    | "-" | ":-" => operandPieces
    | "=" | ":=" =>
      let value := textOfPieces (← operandPieces)
      if !isName name then fail (name ++ ": bad variable name")
      setVariable name value
      return manner.pieces value
    | _ =>
      let reason := textOfPieces (← operandPieces)
      let usual := if operator = ":?" then "parameter not set or null" else "parameter not set"
      fail (name ++ ": " ++ if operand = "" then usual else reason)

def expand (substitute : Substitution) : Nat → Manner → Word → Action (List Piece)
  | 0, _, _ => return []
  | fuel + 1, manner, word => do
    let pieces ← word.mapM fun part => do
      let own : Manner := { manner with isQuoted := part.isQuoted || manner.isQuoted }
      match part.part with
      | .text value =>
        let letters := (lettersOf own.isQuoted value).map .letter
        return if part.isQuoted then .mark :: letters else letters
      | .output line _ script => return own.pieces (← substitute line script)
      | .arithmetic expression =>
        let text ← expand substitute fuel ⟨true, false⟩ (expressionWord expression)
        return own.pieces (toString (← calculate (textOfPieces text)))
      | .parameter name operator operand =>
        expandParameter (expand substitute fuel) own name operator operand
    return pieces.flatten

/-- A field while it is put together: its letters from the last one on, and whether it is one even
without letters. -/
structure Field where
  letters : List Letter
  isMarked : Bool

def Field.isThere (field : Field) : Bool := field.isMarked || !field.letters.isEmpty

def splitPieces (separators : List Char) (field : Field) (mayJoin : Bool) :
    List Piece → List (List Letter)
  | [] => if field.isThere then [field.letters.reverse] else []
  | piece :: rest =>
    let add (letter : Letter) :=
      splitPieces separators ⟨letter :: field.letters, field.isMarked⟩ false rest
    let close (mayJoin : Bool) :=
      field.letters.reverse :: splitPieces separators ⟨[], false⟩ mayJoin rest
    match piece with
    | .letter letter => add letter
    | .mark => splitPieces separators ⟨field.letters, true⟩ mayJoin rest
    | .next => if field.isThere then close false else splitPieces separators field false rest
    | .splittable char =>
      if !separators.contains char then add ⟨char, false⟩
      else if char = ' ' || char = '\t' || char = '\n' then
        if field.isThere then close true else splitPieces separators field mayJoin rest
      else if !field.isThere && mayJoin then splitPieces separators field false rest
      else close false

def Machine.separators (machine : Machine) : List Char :=
  ((machine.value? "IFS").getD " \t\n").toList

def nesting : Nat := 1000

def expandPieces (substitute : Substitution) (splits : Bool) (word : Word) :
    Action (List Piece) := do
  let word := withoutTildes (← get).home false true word
  expand substitute nesting ⟨false, splits⟩ word

def expandFields (substitute : Substitution) (word : Word) : Action (List String) := do
  let pieces ← expandPieces substitute true word
  let machine ← get
  return (splitPieces machine.separators ⟨[], false⟩ false pieces).flatMap (textsFor machine)

def expandLetters (substitute : Substitution) (word : Word) : Action (List Letter) := do
  return lettersOfPieces (← expandPieces substitute false word)

def expandWhole (substitute : Substitution) (word : Word) : Action String := do
  return textOfLetters (← expandLetters substitute word)

def expandValue (substitute : Substitution) (word : Word) : Action String := do
  let word := withoutTildes (← get).home true true word
  return textOfPieces (← expand substitute nesting ⟨false, false⟩ word)

def expandText (substitute : Substitution) (word : Word) : Action String := do
  return textOfPieces (← expand substitute nesting ⟨true, false⟩ word)

def expandAll (substitute : Substitution) (words : List Word) : Action (List String) := do
  return (← words.mapM (expandFields substitute)).flatten

end BuildWatch.Simulation.Shell

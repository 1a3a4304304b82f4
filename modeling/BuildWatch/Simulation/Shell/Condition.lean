import BuildWatch.Simulation.Shell.Arithmetic
import BuildWatch.Simulation.Shell.Pattern

/-!
Conditions on texts, numbers and files, as they are spelled by the arguments of a command.
-/

namespace BuildWatch.Simulation.Shell

def unaryConditions : List String :=
  ["-r", "-w", "-x", "-e", "-f", "-d", "-c", "-b", "-p", "-u", "-g", "-k", "-s", "-t", "-z", "-n",
    "-h", "-L", "-O", "-G", "-S"]

def binaryConditions : List String :=
  ["=", "!=", "<", ">", "-eq", "-ne", "-ge", "-gt", "-le", "-lt", "-nt", "-ot", "-ef"]

inductive ConditionToken where
  | ending
  | operand
  | unary
  | binary
  | not
  | both
  | either
  | openBracket
  | closeBracket
  deriving DecidableEq, Repr

def conditionToken (arguments : List String) : ConditionToken :=
  match arguments with
  | [] => .ending
  | "!" :: _ => .not
  | "-a" :: _ => .both
  | "-o" :: _ => .either
  | "(" :: rest => if rest.isEmpty then .operand else .openBracket
  | ")" :: _ => .closeBracket
  | first :: rest =>
    if binaryConditions.contains first then .binary
    else if unaryConditions.contains first then
      match rest with
      | [] => .operand
      | [_] => .unary
      | next :: _ => if binaryConditions.contains next then .operand else .unary
    else .operand

def systemPrograms : List String :=
  ["[", "basename", "bash", "cat", "cut", "dash", "dd", "dirname", "echo", "false", "grep", "head",
    "kill", "ls", "mkdir", "nl", "od", "printf", "pwd", "rev", "rm", "sed", "seq", "sh", "sleep",
    "sort", "tac", "tail", "tee", "test", "touch", "tr", "true", "uniq", "wc", "yes"]

def programPlaces : List String := ["/usr/bin", "/bin"]

def isSystemPlace (place : String) : Bool :=
  programPlaces.any fun directory => place.startsWith (directory ++ "/") &&
    systemPrograms.contains (dropped place (directory.length + 1))

def Machine.entryOf? (machine : Machine) (name : String) : Option (Location × Entry) :=
  match machine.resolve name with
  | .ok (.found location entry) => some (location, entry)
  | _ =>
    if isSystemPlace name then
      some (machine.tree.locate (machine.pathOf name), .file [0x7f].toByteArray)
    else none

def Machine.isExecutable (machine : Machine) (name : String) : Bool :=
  isSystemPlace name || match machine.entryOf? name with
  | some (_, .directory) => true
  | _ => false

def unaryHolds (machine : Machine) (operator operand : String) : Bool :=
  let isLink := match machine.tree.entry? (machine.tree.locate (machine.pathOf operand)) with
    | some (.link _) => operand ≠ ""
    | _ => false
  match operator with
  | "-z" => operand = ""
  | "-n" => operand ≠ ""
  | "-x" => machine.isExecutable operand
  | "-h" | "-L" => isLink
  | _ =>
    match operator, (machine.entryOf? operand).map Prod.snd with
    | "-e", some _ | "-r", some _ | "-w", some _ | "-O", some _ | "-G", some _ => true
    | "-f", some (.file _) | "-d", some .directory | "-c", some (.device _) => true
    | "-s", some (.file content) => content.size ≠ 0
    | "-s", some .directory => true
    | _, _ => false

def conditionNumber (text : String) : Except String Int :=
  let chars := text.toList.dropWhile Char.isWhitespace
  let isSigned := chars.head? = some '-' || chars.head? = some '+'
  let digits := (if isSigned then chars.drop 1 else chars).takeWhile Char.isDigit
  let rest := chars.drop (digits.length + if isSigned then 1 else 0)
  let size : Int := digitsValue 10 digits
  let number := if chars.head? = some '-' then -size else size
  if digits.isEmpty || !rest.all Char.isWhitespace || number < smallest || largest < number then
    .error ("Illegal number: " ++ text)
  else .ok number

def binaryHolds (machine : Machine) (operator left right : String) : Except String Bool := do
  let compare (holds : Int → Int → Bool) : Except String Bool := do
    let left ← conditionNumber left
    return holds left (← conditionNumber right)
  match operator with
  | "=" => return left = right
  | "!=" => return left ≠ right
  | "<" => return left < right
  | ">" => return right < left
  | "-eq" => compare (· == ·)
  | "-ne" => compare (· != ·)
  | "-lt" => compare (· < ·)
  | "-le" => compare (· ≤ ·)
  | "-gt" => compare (· > ·)
  | "-ge" => compare (· ≥ ·)
  | "-ef" =>
    return match machine.entryOf? left, machine.entryOf? right with
      | some (left, _), some (right, _) => left = right
      | _, _ => false
  | _ => return false

inductive ConditionLevel where
  | either
  | both
  | not
  | primary
  deriving DecidableEq, Repr

def decideCondition (machine : Machine) : Nat → ConditionLevel → List String →
    Except String (Bool × List String)
  | 0, _, arguments => .ok (false, arguments)
  | fuel + 1, .either, arguments => do
    let (left, last) ← decideCondition machine fuel .both arguments
    if conditionToken (last.drop 1) = .either then
      let (right, last) ← decideCondition machine fuel .either (last.drop 2)
      .ok (left || right, last)
    else .ok (left, last)
  | fuel + 1, .both, arguments => do
    let (left, last) ← decideCondition machine fuel .not arguments
    if conditionToken (last.drop 1) = .both then
      let (right, last) ← decideCondition machine fuel .both (last.drop 2)
      .ok (left && right, last)
    else .ok (left, last)
  | fuel + 1, .not, arguments => do
    if conditionToken arguments = .not then
      let rest := arguments.drop 1
      let (holds, last) ← if rest.isEmpty then pure (false, arguments)
        else decideCondition machine fuel .not rest
      .ok (!holds, last)
    else decideCondition machine fuel .primary arguments
  | fuel + 1, .primary, arguments => do
    match conditionToken arguments, arguments with
    | .ending, _ | _, [] => .ok (false, arguments)
    | .openBracket, _ :: rest =>
      if conditionToken rest = .closeBracket then .ok (false, rest)
      else
        let (holds, last) ← decideCondition machine fuel .either rest
        if conditionToken (last.drop 1) = .closeBracket then .ok (holds, last.drop 1)
        else .error "closing paren expected"
    | .unary, operator :: rest =>
      match rest with
      | operand :: _ => .ok (unaryHolds machine operator operand, rest)
      | [] => .error (operator ++ ": argument expected")
    | _, left :: rest =>
      if conditionToken rest = .binary then
        match rest with
        | operator :: right :: after =>
          .ok (← binaryHolds machine operator left right, right :: after)
        | operator :: [] => .error (operator ++ ": argument expected")
        | [] => .ok (left ≠ "", arguments)
      else .ok (left ≠ "", arguments)

def conditionHolds (machine : Machine) : Nat → List String → Except String Bool
  | 0, _ => .ok false
  | _, [] => .ok false
  | fuel + 1, arguments => do
    let whole (level : ConditionLevel) (arguments : List String) : Except String Bool := do
      let (holds, last) ← decideCondition machine (8 * arguments.length + 8) level arguments
      match last with
      | last :: _ :: _ =>
        .error (if last = "" then "unexpected operator" else last ++ ": unexpected operator")
      | _ => .ok holds
    let special := arguments.length = 3 || arguments.length = 4
    match arguments with
    | [left, operator, right] =>
      if binaryConditions.contains operator then binaryHolds machine operator left right
      else if left = "(" && right = ")" then whole .either [operator]
      else if left = "!" then return !(← conditionHolds machine fuel [operator, right])
      else whole .either arguments
    | first :: rest =>
      if special && first = "(" && rest.getLast? = some ")" then whole .either rest.dropLast
      else if special && first = "!" then return !(← conditionHolds machine fuel rest)
      else whole .either arguments
    | [] => .ok false

def runTest (isBuiltIn isBracket : Bool) (arguments : List String) : Action Nat := do
  let complainOf (reason : String) : Action Unit :=
    if isBuiltIn then shellError reason
    else complainFor (if isBracket then "[" else "test") reason
  if isBracket && arguments.getLast? ≠ some "]" then
    complainOf (if isBuiltIn then "missing ]" else "missing " ++ quotedName "]")
    return 2
  let arguments := if isBracket then arguments.dropLast else arguments
  match conditionHolds (← get) (arguments.length + 1) arguments with
  | .ok holds => return if holds then 0 else 1
  | .error reason =>
    complainOf reason
    return 2

end BuildWatch.Simulation.Shell

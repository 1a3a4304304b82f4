import BuildWatch.Simulation.Shell.Printing

/-!
The options of programs: letters behind a dash, of which several may stand together, and names
behind two dashes. Operands may stand before options.
-/

namespace BuildWatch.Simulation.Shell

structure ProgramOption where
  letter : Char
  name : String
  hasValue : Bool

def flag (letter : Char) (name : String) : ProgramOption := ⟨letter, name, false⟩
def valued (letter : Char) (name : String) : ProgramOption := ⟨letter, name, true⟩

/-- What the arguments of a program come to: the letters of its options in their order, with their
values; and the operands. -/
structure Options where
  given : List (String × String)
  operands : List String

def ProgramOption.key (option : ProgramOption) : String := String.singleton option.letter

def Options.has (options : Options) (key : String) : Bool :=
  options.given.any fun pair => pair.1 = key

def Options.value? (options : Options) (key : String) : Option String :=
  (options.given.reverse.find? fun pair => pair.1 = key).map (·.2)

def Options.valuesOf (options : Options) (key : String) : List String :=
  (options.given.filter fun pair => pair.1 = key).map (·.2)

def quotedLetter (letter : Char) : String :=
  String.ofList [singleQuote, letter, singleQuote]

def quotedOption (name : String) : String :=
  String.singleton singleQuote ++ "--" ++ name ++ String.singleton singleQuote

def readLetterOptions (known : List ProgramOption) (next : Option String) :
    List Char → Except String (List (String × String) × Bool)
  | [] => .ok ([], false)
  | letter :: rest =>
    match known.find? fun option => option.letter = letter with
    | none => .error ("invalid option -- " ++ quotedLetter letter)
    | some option =>
      match option.hasValue, rest with
      | false, rest => do
        let (others, usesNext) ← readLetterOptions known next rest
        .ok ((option.key, "") :: others, usesNext)
      | true, [] =>
        match next with
        | some value => .ok ([(option.key, value)], true)
        | none => .error ("option requires an argument -- " ++ quotedLetter letter)
      | true, rest => .ok ([(option.key, String.ofList rest)], false)

def readOptions (known : List ProgramOption) (permutes : Bool) :
    List String → Except String Options
  | [] => .ok ⟨[], []⟩
  | "--" :: rest => .ok ⟨[], rest⟩
  | word :: rest => do
    let put (given : List (String × String)) (options : Options) : Options :=
      { options with given := given ++ options.given }
    if word.startsWith "--" then
      let (name, value) := splitAtEqual (dropped word 2)
      let some option := known.find? fun option => option.name = name
        | .error ("unrecognized option " ++ quotedOption name)
      match option.hasValue, value, rest with
      | false, some _, _ =>
        .error ("option " ++ quotedOption option.name ++ " doesn" ++
          String.singleton singleQuote ++ "t allow an argument")
      | true, none, value :: rest =>
        .ok (put [(option.key, value)] (← readOptions known permutes rest))
      | true, none, [] =>
        .error ("option " ++ quotedOption option.name ++ " requires an argument")
      | _, value, rest =>
        .ok (put [(option.key, value.getD "")] (← readOptions known permutes rest))
    else if word.startsWith "-" && word ≠ "-" then
      match rest with
      | next :: after =>
        let (given, usesNext) ← readLetterOptions known (some next) (word.toList.drop 1)
        if usesNext then .ok (put given (← readOptions known permutes after))
        else .ok (put given (← readOptions known permutes (next :: after)))
      | [] =>
        let (given, _) ← readLetterOptions known none (word.toList.drop 1)
        .ok ⟨given, []⟩
    else if permutes then
      let options ← readOptions known permutes rest
      .ok { options with operands := word :: options.operands }
    else .ok ⟨[], word :: rest⟩

abbrev Program := List String → Action Nat

def misuse (program text : String) (status : Nat) : Action Nat := do
  complainFor program text
  referToHelp program
  return status

def missingOperand (program : String) (after : Option String) : Action Nat :=
  misuse program (match after with
    | some operand => "missing operand after " ++ quotedName operand
    | none => "missing operand") 1

def extraOperand (program operand : String) : Action Nat :=
  misuse program ("extra operand " ++ quotedName operand) 1

def withOptions (program : String) (failure : Nat) (known : List ProgramOption)
    (run : Options → Action Nat) : Program := fun arguments =>
  match readOptions known true arguments with
  | .ok options => run options
  | .error reason => misuse program reason failure

def sizedNumber? (text : String) : Option Nat :=
  let digits := text.toList.takeWhile Char.isDigit
  let unit := dropped text digits.length
  let power? (letter : Char) : Option Nat :=
    "KMGTPEZY".toList.idxOf? letter.toUpper |>.map (· + 1)
  let factor? : Option Nat := match unit.toList with
    | [] => some 1
    | ['b'] => some 512
    | ['c'] => some 1
    | [letter] => (power? letter).map (Nat.pow 1024)
    | [letter, 'B'] => (power? letter).map (Nat.pow 1000)
    | [letter, 'i', 'B'] => (power? letter).map (Nat.pow 1024)
    | _ => none
  if digits.isEmpty then none else factor?.map (digitsValue 10 digits * ·)

def forEachFile (files : List String) (run : String → Action Nat) : Action Nat := do
  let mut status := 0
  for file in if files.isEmpty then ["-"] else files do
    status := max status (← run file)
  return status

def withContents (program : String) (files : List String)
    (run : String → ByteArray → Action Unit) : Action Nat :=
  forEachFile files fun file => do
    match ← contentOf file with
    | .ok content =>
      run file content
      return 0
    | .error error => refuse program (shownName file ++ ": " ++ errorName error)

def allContents (program : String) (files : List String) : Action (String × Nat) := do
  let mut text := ByteArray.empty
  let mut status := 0
  for file in if files.isEmpty then ["-"] else files do
    match ← contentOf file with
    | .ok content => text := text ++ content
    | .error error =>
      status := max status (← refuse program (shownName file ++ ": " ++ errorName error))
  return (octets text, status)

def piecesOf (text : String) : List String :=
  let lines := text.splitOn "\n"
  let ended := lines.dropLast.map (· ++ "\n")
  match lines.getLast? with
  | some "" | none => ended
  | some last => ended ++ [last]

end BuildWatch.Simulation.Shell

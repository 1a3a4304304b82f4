import BuildWatch.Simulation.Shell.Arithmetic

/-!
Printing by a format: escapes that stand for bytes, and directives that show arguments. The shell
has commands of its own for this, which differ from the programs of the same names in what they
accept and in what they complain about.
-/

namespace BuildWatch.Simulation.Shell

/-- Which escapes there are: a zero may lead up to three octal digits, bytes may be spelled in base
sixteen, and an escape may stop the output. -/
structure EscapeStyle where
  zeroLeads : Bool
  hasHex : Bool
  canStop : Bool

def EscapeStyle.read (style : EscapeStyle) (chars : List Char) : List Char × List Char × Bool :=
  let octalAt (chars : List Char) (count : Nat) : List Char × List Char × Bool :=
    let digits := (chars.take count).takeWhile isOctal
    ([Char.ofNat (octalValue digits % 256)], chars.drop digits.length, false)
  match chars with
  | [] => ([backslash], [], false)
  | char :: rest =>
    if char = 'c' && style.canStop then ([], [], true)
    else if char = '0' && style.zeroLeads then
      if rest.head?.any isOctal then octalAt rest 3 else octalAt chars 1
    else if isOctal char then octalAt chars 3
    else if char = 'x' && style.hasHex && (rest.head?.bind hexValue?).isSome then
      let digits := (rest.take 2).takeWhile fun digit => (hexValue? digit).isSome
      ([Char.ofNat (digitsValue 16 digits)], rest.drop digits.length, false)
    else match "abfnrtve\\".toList.idxOf? char with
      | some index =>
        ([Char.ofNat ([7, 8, 12, 10, 13, 9, 11, 27, 92].getD index 92)], rest, false)
      | none => ([backslash, char], rest, false)

def EscapeStyle.unescape (style : EscapeStyle) : Nat → List Char → List Char × Bool
  | 0, _ => ([], false)
  | _, [] => ([], false)
  | fuel + 1, char :: rest =>
    if char = backslash then
      match style.read rest with
      | (bytes, after, stops) =>
        if stops then (bytes, true)
        else
          let (others, stops) := style.unescape fuel after
          (bytes ++ others, stops)
    else
      let (others, stops) := style.unescape fuel rest
      (char :: others, stops)

def echoStyle (isBuiltIn : Bool) : EscapeStyle := ⟨true, !isBuiltIn, true⟩
def argumentStyle (isBuiltIn : Bool) : EscapeStyle := ⟨true, !isBuiltIn, true⟩
def formatStyle (isBuiltIn : Bool) : EscapeStyle := ⟨false, !isBuiltIn, !isBuiltIn⟩

structure Directive where
  flags : List Char
  width : Nat
  precision : Option Nat
  kind : Char

def Directive.has (directive : Directive) (flag : Char) : Bool := directive.flags.contains flag

def fill (count : Nat) (char : Char) : List Char := List.replicate count char

def Directive.pad (directive : Directive) (text : List Char) : List Char :=
  let missing := directive.width - text.length
  if directive.has '-' then text ++ fill missing ' ' else fill missing ' ' ++ text

def Directive.padNumber (directive : Directive) (canFill : Bool) (sign digits : List Char) :
    List Char :=
  if directive.has '0' && !directive.has '-' && canFill then
    sign ++ fill (directive.width - sign.length - digits.length) '0' ++ digits
  else directive.pad (sign ++ digits)

def Directive.sign (directive : Directive) (isNegative : Bool) : List Char :=
  if isNegative then ['-'] else if directive.has '+' then ['+']
  else if directive.has ' ' then [' '] else []

def Directive.digits (directive : Directive) (base number : Nat) : List Char :=
  let digits := Nat.toDigits base number
  match directive.precision with
  | some 0 => if number = 0 then [] else digits
  | some precision => fill (precision - digits.length) '0' ++ digits
  | none => digits

def Directive.showInteger (directive : Directive) (number : Int) : List Char :=
  let canFill := directive.precision.isNone
  let unsigned := (number % (1 <<< 64 : Nat)).toNat
  let isMarked := directive.has '#' && unsigned ≠ 0
  match directive.kind with
  | 'd' | 'i' =>
    directive.padNumber canFill (directive.sign (number < 0)) (directive.digits 10 number.natAbs)
  | 'u' => directive.padNumber canFill [] (directive.digits 10 unsigned)
  | 'o' =>
    let digits := directive.digits 8 unsigned
    directive.padNumber canFill []
      (if directive.has '#' && digits.head? ≠ some '0' then '0' :: digits else digits)
  | 'x' =>
    directive.padNumber canFill (if isMarked then ['0', 'x'] else []) (directive.digits 16 unsigned)
  | _ =>
    directive.padNumber canFill (if isMarked then ['0', 'X'] else [])
      ((directive.digits 16 unsigned).map Char.toUpper)

inductive Spelling where
  | whole
  | partly
  | notAtAll
  | tooLarge
  deriving DecidableEq, Repr

def readSign (text : String) : Bool × List Char :=
  match text.toList.dropWhile Char.isWhitespace with
  | '-' :: rest => (true, rest)
  | '+' :: rest => (false, rest)
  | rest => (false, rest)

def readInteger (isUnsigned : Bool) (text : String) : Int × Spelling :=
  match text.toList with
  | quote :: rest =>
    if quote = singleQuote || quote = doubleQuote then
      (((rest.head?.map Char.toNat).getD 0 : Nat), .whole)
    else
      let (isNegative, chars) := readSign text
      let digits := chars.takeWhile Char.isAlphanum
      let isHex := chars.take 2 = ['0', 'x'] || chars.take 2 = ['0', 'X']
      let (base, digits) :=
        if isHex && (digits[2]?).any fun char => (hexValue? char).isSome then
          (16, (digits.drop 2).takeWhile fun char => (hexValue? char).isSome)
        else if chars.head? = some '0' then (8, digits.takeWhile isOctal)
        else (10, digits.takeWhile Char.isDigit)
      let length := digits.length + if base = 16 then 2 else 0
      let value : Int := digitsValue base digits
      let value := if isNegative then -value else value
      let limit : Int := (1 <<< 64 : Nat)
      let (lowest, highest) := if isUnsigned then (-limit, limit - 1) else (smallest, largest)
      if digits.isEmpty then (0, .notAtAll)
      else if value < lowest then (if isUnsigned then highest else lowest, .tooLarge)
      else if highest < value then (highest, .tooLarge)
      else (value, if length = chars.length then .whole else .partly)
  | [] => (0, .whole)

/-- What printing has come to: the text, the arguments that are left, what there is to complain
about, and whether that or an escape ends all. -/
structure Printed where
  text : List Char
  left : List String
  complaints : List String
  isOver : Bool

def spellingComplaint (isBuiltIn : Bool) (argument : String) (spelling : Spelling) :
    List String :=
  let shown := if isBuiltIn then argument else quotedName argument
  match spelling with
  | .whole => []
  | .partly =>
    [shown ++ ": " ++ if isBuiltIn then "not completely converted"
      else "value not completely converted"]
  | .notAtAll =>
    [shown ++ ": " ++ if isBuiltIn then "expected numeric value" else "expected a numeric value"]
  | .tooLarge => [shown ++ ": Numerical result out of range"]

def readDirective (chars : List Char) (arguments : List String) :
    Directive × List Char × List String :=
  let flags := chars.takeWhile fun char => "-+ 0#".toList.contains char
  let rest := chars.drop flags.length
  let number (chars : List Char) (arguments : List String) : Int × List Char × List String :=
    match chars with
    | '*' :: rest => ((readInteger false (arguments.headD "")).1, rest, arguments.drop 1)
    | chars =>
      let digits := chars.takeWhile Char.isDigit
      (digitsValue 10 digits, chars.drop digits.length, arguments)
  let (width, rest, arguments) := number rest arguments
  let flags := if width < 0 then '-' :: flags else flags
  match rest with
  | '.' :: rest =>
    let (precision, rest, arguments) := number rest arguments
    let precision := if precision < 0 then none else some precision.toNat
    (⟨flags, width.natAbs, precision, rest.headD ' '⟩, rest, arguments)
  | rest => (⟨flags, width.natAbs, none, rest.headD ' '⟩, rest, arguments)

def Directive.apply? (isBuiltIn : Bool) (directive : Directive) (argument : String) :
    Option Printed :=
  let shown (text : List Char) : Option Printed := some ⟨directive.pad text, [], [], false⟩
  let cut (text : List Char) : List Char := (directive.precision.map text.take).getD text
  let kind := directive.kind
  if kind = 's' then shown (cut argument.toList)
  else if kind = 'b' then
    let (text, stops) :=
      (argumentStyle isBuiltIn).unescape (argument.length + 1) argument.toList
    some ⟨directive.pad (cut text), [], [], stops⟩
  else if kind = 'c' then
    shown (if argument = "" && isBuiltIn then [Char.ofNat 0] else argument.toList.take 1)
  else if "diouxX".toList.contains kind then
    let (number, spelling) := readInteger (kind ≠ 'd' && kind ≠ 'i') argument
    some ⟨directive.showInteger number, [], spellingComplaint isBuiltIn argument spelling, false⟩
  else none

def directiveComplaint (isBuiltIn : Bool) (spelled : List Char) : String :=
  let text := "%" ++ String.ofList spelled
  if isBuiltIn then text ++ ": invalid directive" else text ++ ": invalid conversion specification"

def formatOnce (isBuiltIn : Bool) : Nat → List Char → List String → Printed
  | 0, _, arguments => ⟨[], arguments, [], false⟩
  | _, [], arguments => ⟨[], arguments, [], false⟩
  | fuel + 1, char :: rest, arguments =>
    let goOn (text : List Char) (complaints : List String) (after : List Char)
        (arguments : List String) : Printed :=
      let printed := formatOnce isBuiltIn fuel after arguments
      { printed with text := text ++ printed.text, complaints := complaints ++ printed.complaints }
    if char = backslash then
      match (formatStyle isBuiltIn).read rest with
      | (bytes, after, stops) =>
        if stops then ⟨bytes, [], [], true⟩ else goOn bytes [] after arguments
    else if char ≠ '%' then goOn [char] [] rest arguments
    else if rest.head? = some '%' then goOn ['%'] [] (rest.drop 1) arguments
    else
      let (directive, after, arguments) := readDirective rest arguments
      match after with
      | [] =>
        ⟨[], arguments, [if isBuiltIn then "missing format character"
          else directiveComplaint false rest], true⟩
      | _ :: after =>
        match directive.apply? isBuiltIn (arguments.headD "") with
        | none =>
          ⟨[], arguments, [directiveComplaint isBuiltIn (rest.take (rest.length - after.length))],
            true⟩
        | some shown =>
          if shown.isOver then { shown with left := [] }
          else goOn shown.text shown.complaints after (arguments.drop 1)

def formatAll (isBuiltIn : Bool) (format : List Char) : Nat → List String → Printed
  | 0, arguments => ⟨[], arguments, [], false⟩
  | fuel + 1, arguments =>
    let printed := formatOnce isBuiltIn (format.length + 1) format arguments
    if printed.isOver || printed.left.isEmpty || printed.left.length = arguments.length then printed
    else
      let others := formatAll isBuiltIn format fuel printed.left
      { others with
        text := printed.text ++ others.text, complaints := printed.complaints ++ others.complaints }

def runPrintf (isBuiltIn : Bool) (name : String) (arguments : List String) : Action Nat := do
  let complainOf (text : String) : Action Unit :=
    if isBuiltIn then shellError text else complainFor name text
  let isMarked := arguments.head? = some "--"
  let arguments := if isMarked then arguments.drop 1 else arguments
  match arguments with
  | [] =>
    if isBuiltIn then fail "usage: printf format [arg ...]"
    complainFor name "missing operand"
    referToHelp name
    return 1
  | format :: arguments =>
    if isBuiltIn && !isMarked && format.startsWith "-" && format.length > 1 then
      fail ("Illegal option " ++ taken format 2)
    let printed := formatAll isBuiltIn format.toList (arguments.length + 1) arguments
    for complaint in printed.complaints do
      complainOf complaint
    if !isBuiltIn && !printed.isOver && !printed.left.isEmpty then
      complainOf ("warning: ignoring excess arguments, starting with " ++
        quotedName (printed.left.headD ""))
    print (String.ofList printed.text)
    if isBuiltIn && printed.isOver && !printed.complaints.isEmpty then return 2
    return if printed.complaints.isEmpty then 0 else 1

def echoOptions (isOpen expands : Bool) : List String → Bool × Bool × List String
  | [] => (isOpen, expands, [])
  | word :: rest =>
    let letters := word.toList.drop 1
    if word.startsWith "-" && !letters.isEmpty &&
        letters.all fun letter => "neE".toList.contains letter then
      let expands := letters.foldl (fun expands letter =>
        if letter = 'e' then true else if letter = 'E' then false else expands) expands
      echoOptions (isOpen || letters.contains 'n') expands rest
    else (isOpen, expands, word :: rest)

def runEcho (isBuiltIn : Bool) (arguments : List String) : Action Nat := do
  let (isOpen, expands, words) :=
    if isBuiltIn then
      match arguments with
      | "-n" :: words => (true, true, words)
      | words => (false, true, words)
    else echoOptions false false arguments
  let text := String.intercalate " " words
  let (text, stops) :=
    if expands then (echoStyle isBuiltIn).unescape (text.length + 1) text.toList
    else (text.toList, false)
  print (String.ofList text ++ if isOpen || stops then "" else "\n")
  return 0

end BuildWatch.Simulation.Shell

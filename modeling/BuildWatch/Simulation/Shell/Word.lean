import BuildWatch.Simulation.Shell.Octets

/-!
The words of shell scripts. A word is a list of parts; what was quoted in the script is marked,
because only what was not quoted is split into fields and matched against names.
-/

namespace BuildWatch.Simulation.Shell

/-- A piece of a word: text, or something that is replaced by its value when the word is used. The
operand of a parameter is kept as it is spelled and read when it is needed. -/
inductive Part where
  | text (value : String)
  | parameter (name operator operand : String)
  | output (line : Nat) (isBackquoted : Bool) (script : String)
  | arithmetic (expression : String)
  deriving DecidableEq, Repr

structure QuotablePart where
  part : Part
  isQuoted : Bool
  deriving DecidableEq, Repr

abbrev Word := List QuotablePart

inductive SyntaxFault where
  | openQuote
  | openSubstitution
  | openBackquote
  | openBrace
  | openArithmetic
  | badDescriptor
  | badLoopVariable
  | badFunctionName
  | unexpected (token : String) (expected : Option String)
  deriving DecidableEq, Repr

def SyntaxFault.message : SyntaxFault → String
  | openQuote => "Unterminated quoted string"
  | openSubstitution => "end of file unexpected (expecting \")\")"
  | openBackquote => "EOF in backquote substitution"
  | openBrace => "Missing '\x7d'"
  | openArithmetic => "Missing '))'"
  | badDescriptor => "Bad fd number"
  | badLoopVariable => "Bad for loop variable"
  | badFunctionName => "Bad function name"
  | unexpected token none => token ++ " unexpected"
  | unexpected token (some expected) => token ++ " unexpected (expecting " ++ expected ++ ")"

abbrev Reading := Except SyntaxFault

def isNameStart (char : Char) : Bool := char.isAlpha || char = '_'
def isNamePart (char : Char) : Bool := char.isAlphanum || char = '_'

def isName (text : String) : Bool :=
  text.toList.head?.any isNameStart && text.toList.all isNamePart

def isSpecial (char : Char) : Bool := "?#@*$!-".toList.contains char

def readLiteral (chars : List Char) : Reading (String × List Char) :=
  match chars.dropWhile (· ≠ singleQuote) with
  | _ :: rest => .ok (String.ofList (chars.takeWhile (· ≠ singleQuote)), rest)
  | [] => .error .openQuote

def readBackquoted (isQuoted : Bool) (read : List Char) : List Char → Reading (String × List Char)
  | [] => .error .openBackquote
  | '\\' :: char :: rest =>
    if char = backquote || char = backslash || char = '$' || isQuoted && char = doubleQuote then
      readBackquoted isQuoted (char :: read) rest
    else readBackquoted isQuoted (char :: '\\' :: read) rest
  | char :: rest =>
    if char = backquote then .ok (String.ofList read.reverse, rest)
    else readBackquoted isQuoted (char :: read) rest

/-- What surrounds a place within a nested text: the open brackets, from the inside out. A group
stands in parentheses within an arithmetic expression. -/
inductive Enclosure where
  | script
  | arithmetic
  | group
  | brace (isQuoted : Bool)
  | singleQuotes
  | doubleQuotes
  | backquotes
  | caseArms
  deriving DecidableEq, Repr

def Enclosure.isQuoting (enclosure : Enclosure) : Bool :=
  enclosure = .doubleQuotes || enclosure = .brace true

def endsWithWord (read : List Char) (word : String) : Bool :=
  let letters := word.toList.reverse
  letters.isPrefixOf read &&
    !(read.drop letters.length).head?.any fun char => isNamePart char || char = '$'

def isSeparator (char : Char) : Bool :=
  char.isWhitespace || ";&|<>()".toList.contains char

def announcedEnding (chars : List Char) : String × Bool :=
  let dropsTabs := chars.head? = some '-'
  let word := ((if dropsTabs then chars.drop 1 else chars).dropWhile isBlank).takeWhile fun char =>
    !isSeparator char
  let isQuote (char : Char) : Bool :=
    char = singleQuote || char = doubleQuote || char = backslash
  (String.ofList (word.filter fun char => !isQuote char), dropsTabs)

def passLines (ending : String × Bool) : Nat → List Char → List Char → List Char × List Char
  | 0, read, chars => (read, chars)
  | _, read, [] => (read, [])
  | fuel + 1, read, chars =>
    let line := chars.takeWhile (· ≠ newline)
    let rest := chars.drop line.length
    let bare := if ending.2 then line.dropWhile (· = '\t') else line
    if String.ofList bare = ending.1 then (line.reverse ++ read, rest)
    else passLines ending fuel ((line ++ rest.take 1).reverse ++ read) (rest.drop 1)

/-- Splits at the bracket that closes the first of the enclosures. `endings` are those of the texts
that were announced and begin behind the next line end. The fuel bounds the steps, of which each
uses up a character. -/
def splitAtClose (endings : List (String × Bool)) (read : List Char) (open' : List Enclosure) :
    Nat → List Char → Option (List Char × List Char)
  | 0, _ => none
  | _, [] => none
  | fuel + 1, char :: rest =>
    let go (open' : List Enclosure) := splitAtClose endings (char :: read) open' fuel rest
    let close (outer : List Enclosure) :=
      if outer.isEmpty then some (read.reverse, rest) else go outer
    match open' with
    | [] => none
    | .singleQuotes :: outer => go (if char = singleQuote then outer else open')
    | inner :: outer =>
      if char = backslash then
        match rest with
        | next :: rest => splitAtClose endings (next :: char :: read) open' fuel rest
        | [] => none
      else if char = backquote then
        if inner = .backquotes then go outer else go (.backquotes :: open')
      else if inner = .backquotes then go open'
      else if char = doubleQuote && inner ≠ .arithmetic && inner ≠ .group then
        if inner = .doubleQuotes then go outer else go (.doubleQuotes :: open')
      else if char = '}' && (inner = .brace true || inner = .brace false) then close outer
      else if char = '$' then
        match rest with
        | '{' :: rest =>
          splitAtClose endings ('{' :: char :: read) (.brace inner.isQuoting :: open') fuel rest
        | '(' :: '(' :: rest =>
          splitAtClose endings ('(' :: '(' :: char :: read) (.arithmetic :: open') fuel rest
        | '(' :: rest =>
          splitAtClose endings ('(' :: char :: read) (.script :: open') fuel rest
        | _ => go open'
      else if inner.isQuoting then go open'
      else if inner = .arithmetic then
        match char, rest with
        | '(', _ => go (.group :: open')
        | ')', ')' :: after =>
          if outer.isEmpty then some (read.reverse, after)
          else splitAtClose endings (')' :: ')' :: read) outer fuel after
        | _, _ => go open'
      else if inner = .group then
        if char = '(' then go (.group :: open') else if char = ')' then go outer else go open'
      else if char = singleQuote then go (.singleQuotes :: open')
      else if inner = .brace false then go open'
      else if char = '#' && read.head?.all isSeparator then
        let comment := char :: rest.takeWhile (· ≠ newline)
        splitAtClose endings (comment.reverse ++ read) open' fuel
          (rest.drop (comment.length - 1))
      else if char = '<' && rest.head? = some '<' then
        let ending := announcedEnding (rest.drop 1)
        splitAtClose (endings ++ [ending]) ('<' :: '<' :: read) open' fuel (rest.drop 1)
      else if char = newline && !endings.isEmpty then
        let (read, rest) := endings.foldl (fun (read, rest) ending =>
          passLines ending (rest.length + 1) read rest) (char :: read, rest)
        splitAtClose [] read open' fuel rest
      else if char = 'e' && endsWithWord (char :: read) "case" &&
          rest.head?.any Char.isWhitespace then go (.caseArms :: open')
      else if char = '(' then go (.script :: open')
      else if inner = .caseArms then
        if char = 'c' && endsWithWord (char :: read) "esac" then go outer else go open'
      else if char = ')' then close outer
      else go open'

def splitEnclosed (enclosure : Enclosure) (chars : List Char) : Option (List Char × List Char) :=
  splitAtClose [] [] [enclosure] (chars.length + 1) chars

def parameterOperators : List String :=
  [":-", ":=", ":?", ":+", "%%", "##", "-", "=", "?", "+", "%", "#"]

def readBraced (inside : List Char) : Part :=
  let ofName (name rest : List Char) : Part :=
    if rest.isEmpty then .parameter (String.ofList name) "" ""
    else
      let rest' := String.ofList rest
      match parameterOperators.find? fun operator => rest'.startsWith operator with
      | some operator =>
        .parameter (String.ofList name) operator (String.ofList (rest.drop operator.length))
      | none => .parameter "" "" ""
  match inside with
  | ['#'] => .parameter "#" "" ""
  | '#' :: rest =>
    let name := String.ofList rest
    if isName name || (rest.all Char.isDigit && !rest.isEmpty) ||
        rest.length = 1 && rest.all isSpecial then .parameter name "length" ""
    else ofName ['#'] rest
  | char :: rest =>
    if isNameStart char then ofName (inside.takeWhile isNamePart) (inside.dropWhile isNamePart)
    else if char.isDigit then ofName (inside.takeWhile Char.isDigit) (inside.dropWhile Char.isDigit)
    else if isSpecial char then ofName [char] rest
    else .parameter "" "" ""
  | [] => .parameter "" "" ""

def readDollar (line : Nat) (isQuoted : Bool) (chars : List Char) :
    Reading (Option (Part × List Char)) :=
  match chars with
  | '(' :: '(' :: rest =>
    match splitEnclosed .arithmetic rest with
    | none => .error .openArithmetic
    | some (inside, after) => .ok (some (.arithmetic (String.ofList inside), after))
  | '(' :: rest =>
    match splitEnclosed .script rest with
    | none => .error .openSubstitution
    | some (inside, after) => .ok (some (.output line false (String.ofList inside), after))
  | '{' :: rest =>
    match splitEnclosed (.brace isQuoted) rest with
    | none => .error .openBrace
    | some (inside, after) => .ok (some (readBraced inside, after))
  | char :: rest =>
    if isNameStart char then
      .ok (some (.parameter (String.ofList (chars.takeWhile isNamePart)) "" "",
        chars.dropWhile isNamePart))
    else if char.isDigit || isSpecial char then
      .ok (some (.parameter (String.singleton char) "" "", rest))
    else .ok none
  | [] => .ok none

/-- Where a text stands in which single quotes mean nothing: between double quotes, in lines that
are the input of a command, or in the operand of something that is quoted itself. -/
inductive QuotedPlace where
  | string
  | document
  | operand
  deriving DecidableEq, Repr

def QuotedPlace.escapes (place : QuotedPlace) (char : Char) : Bool :=
  char = '$' || char = backquote || char = backslash ||
    char = doubleQuote && place ≠ .document || char = '}' && place = .operand

def readQuoted (line : Nat) (place : QuotedPlace) : Nat → List Char → Reading (Word × List Char)
  | 0, chars => .ok ([], chars)
  | _, [] => if place = .string then .error .openQuote else .ok ([], [])
  | fuel + 1, char :: rest =>
    let add (part : Part) (after : List Char) : Reading (Word × List Char) := do
      let (parts, after) ← readQuoted line place fuel after
      .ok (⟨part, true⟩ :: parts, after)
    let plain (value : Char) (after : List Char) := add (.text (String.singleton value)) after
    if char = doubleQuote && place = .string then .ok ([], rest)
    else if char = doubleQuote && place = .operand then readQuoted line place fuel rest
    else if char = backslash then
      match rest with
      | escaped :: after =>
        if place.escapes escaped then plain escaped after
        else if escaped = '\n' then readQuoted line place fuel after
        else plain char rest
      | [] => plain char rest
    else if char = backquote then do
      let (script, after) ← readBackquoted (place ≠ .document) [] rest
      add (.output line true script) after
    else if char = '$' then do
      match ← readDollar line true rest with
      | some (part, after) => add part after
      | none => plain char rest
    else plain char rest

/-- The parts of a word, up to a separator if separators count, and what follows it. Double quotes
leave an empty quoted text, because a word with them is a field even when nothing is left of it;
only quotes around all parameters do not. -/
def readWord (line : Nat) (hasEnd : Bool) : Nat → List Char → Reading (Word × List Char)
  | 0, chars => .ok ([], chars)
  | _, [] => .ok ([], [])
  | fuel + 1, char :: rest =>
    let add (part : Part) (isQuoted : Bool) (after : List Char) : Reading (Word × List Char) := do
      let (parts, after) ← readWord line hasEnd fuel after
      .ok (⟨part, isQuoted⟩ :: parts, after)
    if hasEnd && isSeparator char then .ok ([], char :: rest)
    else if char = singleQuote then do
      let (text, after) ← readLiteral rest
      add (.text text) true after
    else if char = doubleQuote then do
      let (quoted, after) ← readQuoted line .string (rest.length + 1) rest
      let (parts, after) ← readWord line hasEnd fuel after
      let mark : Word :=
        if quoted = [⟨.parameter "@" "" "", true⟩] then [] else [⟨.text "", true⟩]
      .ok (mark ++ quoted ++ parts, after)
    else if char = backquote then do
      let (script, after) ← readBackquoted false [] rest
      add (.output line true script) false after
    else if char = backslash then
      match rest with
      | '\n' :: after => readWord line hasEnd fuel after
      | escaped :: after => add (.text (String.singleton escaped)) true after
      | [] => add (.text (String.singleton char)) true rest
    else if char = '$' then do
      match ← readDollar line false rest with
      | some (part, after) => add part false after
      | none => add (.text (String.singleton char)) false rest
    else add (.text (String.singleton char)) false rest

def wordOf (text : String) (read : Nat → List Char → Reading (Word × List Char)) : Word :=
  match read (text.length + 1) text.toList with
  | .ok (word, _) => word
  | .error _ => [⟨.text text, true⟩]

def operandWord (isQuoted : Bool) (operand : String) : Word :=
  wordOf operand (if isQuoted then readQuoted 0 .operand else readWord 0 false)

def expressionWord (expression : String) : Word := wordOf expression (readQuoted 0 .document)

def plainText? (word : Word) : Option String :=
  word.foldl (fun text part =>
    match text, part.part with
    | some text, .text value => some (text ++ value)
    | _, _ => none) (some "")

def assignment? (word : Word) : Option (String × Word) :=
  let name := word.takeWhile fun part =>
    match part with
    | ⟨.text value, false⟩ => value ≠ "=" && value.toList.all isNamePart
    | _ => false
  match word.drop name.length with
  | ⟨.text "=", false⟩ :: value =>
    (plainText? name).bind fun text => if isName text then some (text, value) else none
  | _ => none

def bareText? (word : Word) : Option String :=
  if word.any QuotablePart.isQuoted then none else plainText? word

end BuildWatch.Simulation.Shell

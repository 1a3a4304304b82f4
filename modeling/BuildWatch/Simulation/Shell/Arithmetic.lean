import BuildWatch.Simulation.Shell.Machine

/-!
Arithmetic of shell scripts: expressions over whole numbers of 64 bits that wrap around, with
variables that can be assigned.
-/

namespace BuildWatch.Simulation.Shell

inductive Expression where
  | number (value : Int)
  | parameter (name : String)
  | unary (operator : String) (operand : Expression)
  | binary (operator : String) (left right : Expression)
  | both (left right : Expression)
  | either (left right : Expression)
  | choice (condition yes no : Expression)
  | assignment (name operator : String) (value : Expression)
  deriving DecidableEq, Repr

inductive ArithmeticToken where
  | number (value : Int)
  | name (name : String)
  | symbol (symbol : String)
  deriving DecidableEq, Repr

def wrapped (number : Int) : Int := number.bmod (1 <<< 64)

def largest : Int := (1 <<< 63 : Nat) - 1
def smallest : Int := -(1 <<< 63 : Nat)

def readNatural (chars : List Char) : Option (Int × List Char) :=
  let ofDigits (base : Nat) (digits rest : List Char) : Option (Int × List Char) :=
    some (min (digitsValue base digits : Int) largest, rest)
  let isHex (char : Char) : Bool := (hexValue? char).isSome
  match chars with
  | '0' :: mark :: first :: rest =>
    if (mark = 'x' || mark = 'X') && isHex first then
      let digits := (first :: rest).takeWhile isHex
      ofDigits 16 digits ((first :: rest).drop digits.length)
    else ofDigits 8 (chars.takeWhile isOctal) (chars.dropWhile isOctal)
  | '0' :: _ => ofDigits 8 (chars.takeWhile isOctal) (chars.dropWhile isOctal)
  | char :: _ =>
    if char.isDigit then ofDigits 10 (chars.takeWhile Char.isDigit) (chars.dropWhile Char.isDigit)
    else none
  | [] => none

def wholeNumber? (text : String) : Option Int :=
  let chars := text.toList.dropWhile Char.isWhitespace
  let (isNegative, chars) := match chars with
    | '-' :: rest => (true, rest)
    | '+' :: rest => (false, rest)
    | chars => (false, chars)
  match readNatural chars with
  | some (number, rest) =>
    if rest.all Char.isWhitespace then some (if isNegative then -number else number) else none
  | none => none

def arithmeticSymbols : List String :=
  ["<<=", ">>=", "<<", ">>", "<=", ">=", "==", "!=", "&&", "||", "+=", "-=", "*=", "/=", "%=",
    "&=", "^=", "|="]

def arithmeticTokens : Nat → List Char → List ArithmeticToken
  | 0, _ => []
  | _, [] => []
  | fuel + 1, char :: rest =>
    let chars := char :: rest
    if char = ' ' || char = '\t' || char = '\n' then arithmeticTokens fuel rest
    else match readNatural chars with
      | some (value, rest) => .number value :: arithmeticTokens fuel rest
      | none =>
        if isNameStart char then
          .name (String.ofList (chars.takeWhile isNamePart)) ::
            arithmeticTokens fuel (chars.dropWhile isNamePart)
        else match startsWith? chars arithmeticSymbols with
          | some (symbol, rest) => .symbol symbol :: arithmeticTokens fuel rest
          | none => .symbol (String.singleton char) :: arithmeticTokens fuel rest

def bindingStrength? (operator : String) : Option Nat :=
  if ["*", "/", "%"].contains operator then some 8
  else if ["+", "-"].contains operator then some 7
  else if ["<<", ">>"].contains operator then some 6
  else if ["<", "<=", ">", ">="].contains operator then some 5
  else if ["==", "!="].contains operator then some 4
  else if operator = "&" then some 3
  else if operator = "^" then some 2
  else if operator = "|" then some 1
  else none

def assignmentOperators : List String :=
  ["=", "*=", "/=", "%=", "+=", "-=", "<<=", ">>=", "&=", "^=", "|="]

inductive ExpressionLevel where
  | whole
  | choice
  | either
  | both
  | binary (strength : Nat)
  | binaryAfter (left : Expression) (strength : Nat)
  | unary

def readExpression : Nat → ExpressionLevel → List ArithmeticToken →
    Except String (Expression × List ArithmeticToken)
  | 0, _, _ => .error "expecting primary"
  | fuel + 1, .whole, tokens =>
    match tokens with
    | .name name :: .symbol symbol :: rest =>
      if assignmentOperators.contains symbol then do
        let (value, after) ← readExpression fuel .whole rest
        .ok (.assignment name symbol value, after)
      else readExpression fuel .choice tokens
    | tokens => readExpression fuel .choice tokens
  | fuel + 1, .choice, tokens => do
    let (condition, after) ← readExpression fuel .either tokens
    match after with
    | .symbol "?" :: rest =>
      let (yes, after) ← readExpression fuel .whole rest
      match after with
      | .symbol ":" :: rest =>
        let (no, after) ← readExpression fuel .choice rest
        .ok (.choice condition yes no, after)
      | _ => .error ("expecting " ++ String.singleton singleQuote ++ ":" ++
          String.singleton singleQuote)
    | after => .ok (condition, after)
  | fuel + 1, .either, tokens => do
    let (left, after) ← readExpression fuel .both tokens
    match after with
    | .symbol "||" :: rest =>
      let (right, after) ← readExpression fuel .either rest
      .ok (.either left right, after)
    | after => .ok (left, after)
  | fuel + 1, .both, tokens => do
    let (left, after) ← readExpression fuel (.binary 1) tokens
    match after with
    | .symbol "&&" :: rest =>
      let (right, after) ← readExpression fuel .both rest
      .ok (.both left right, after)
    | after => .ok (left, after)
  | fuel + 1, .binary strength, tokens => do
    let (left, after) ← readExpression fuel .unary tokens
    readExpression fuel (.binaryAfter left strength) after
  | fuel + 1, .binaryAfter left strength, tokens =>
    match tokens with
    | .symbol symbol :: rest =>
      match (bindingStrength? symbol).filter (strength ≤ ·) with
      | some own => do
        let (right, after) ← readExpression fuel (.binary (own + 1)) rest
        readExpression fuel (.binaryAfter (.binary symbol left right) strength) after
      | none => .ok (left, tokens)
    | tokens => .ok (left, tokens)
  | fuel + 1, .unary, tokens =>
    match tokens with
    | .number value :: rest => .ok (.number value, rest)
    | .name name :: rest => .ok (.parameter name, rest)
    | .symbol "(" :: rest => do
      let (inside, after) ← readExpression fuel .whole rest
      match after with
      | .symbol ")" :: after => .ok (inside, after)
      | _ => .error ("expecting " ++ String.singleton singleQuote ++ ")" ++
          String.singleton singleQuote)
    | .symbol symbol :: rest =>
      if ["+", "-", "!", "~"].contains symbol then do
        let (operand, after) ← readExpression fuel .unary rest
        .ok (.unary symbol operand, after)
      else .error "expecting primary"
    | [] => .error "expecting primary"

def Expression.ofText (text : String) : Except String Expression := do
  let tokens := arithmeticTokens (text.length + 1) text.toList
  match ← readExpression (10 * tokens.length + 10) .whole tokens with
  | (expression, []) => .ok expression
  | _ => .error "expecting EOF"

def truth (condition : Bool) : Int := if condition then 1 else 0

def shiftOf (number : Int) : Nat := (number % 64).toNat

def bitwise (operation : Nat → Nat → Nat) (left right : Int) : Int :=
  let bits (number : Int) : Nat := (number % (1 <<< 64 : Nat)).toNat
  wrapped (operation (bits left) (bits right))

def binaryResult? (operator : String) (left right : Int) : Option Int :=
  match operator with
  | "*" => some (wrapped (left * right))
  | "/" => if right = 0 then none else some (wrapped (left.tdiv right))
  | "%" => if right = 0 then none else some (wrapped (left.tmod right))
  | "+" => some (wrapped (left + right))
  | "-" => some (wrapped (left - right))
  | "<<" => some (wrapped (left * (1 <<< shiftOf right : Nat)))
  | ">>" => some (left.fdiv (1 <<< shiftOf right : Nat))
  | "<" => some (truth (left < right))
  | "<=" => some (truth (left ≤ right))
  | ">" => some (truth (right < left))
  | ">=" => some (truth (right ≤ left))
  | "==" => some (truth (left = right))
  | "!=" => some (truth (left ≠ right))
  | "&" => some (bitwise (· &&& ·) left right)
  | "^" => some (bitwise (· ^^^ ·) left right)
  | _ => some (bitwise (· ||| ·) left right)

def unaryResult (operator : String) (operand : Int) : Int :=
  match operator with
  | "-" => wrapped (-operand)
  | "!" => truth (operand = 0)
  | "~" => -operand - 1
  | _ => operand

def numberOfVariable (name : String) : Action Int := do
  let value := ((← get).value? name).getD ""
  if value = "" then return 0
  match wholeNumber? value with
  | some number => return number
  | none => fail ("Illegal number: " ++ value)

def evaluate (text : String) : Expression → Action Int
  | .number value => return value
  | .parameter name => numberOfVariable name
  | .unary operator operand => return unaryResult operator (← evaluate text operand)
  | .binary operator left right => do
    let left ← evaluate text left
    let right ← evaluate text right
    match binaryResult? operator left right with
    | some result => return result
    | none => fail ("arithmetic expression: division by zero: \"" ++ text ++ "\"")
  | .both left right => do
    if (← evaluate text left) = 0 then return 0
    return truth ((← evaluate text right) ≠ 0)
  | .either left right => do
    if (← evaluate text left) ≠ 0 then return 1
    return truth ((← evaluate text right) ≠ 0)
  | .choice condition yes no => do
    if (← evaluate text condition) ≠ 0 then evaluate text yes else evaluate text no
  | .assignment name operator value => do
    let value ← evaluate text value
    let operator := (operator.dropEnd 1).toString
    let result ← if operator = "" then pure (some value)
      else do pure (binaryResult? operator (← numberOfVariable name) value)
    match result with
    | some result =>
      setVariable name (toString result)
      return result
    | none => fail ("arithmetic expression: division by zero: \"" ++ text ++ "\"")

def calculate (text : String) : Action Int :=
  match Expression.ofText text with
  | .ok expression => evaluate text expression
  | .error reason => fail ("arithmetic expression: " ++ reason ++ ": \"" ++ text ++ "\"")

end BuildWatch.Simulation.Shell

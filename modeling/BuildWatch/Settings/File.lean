import BuildWatch.Settings.Text

/-!
The lines of a settings file: `key = value`, section headers and comments. Only values that a
setting can have are read, so a file with any other value is refused; a table matters only by its
one member, and that only when the member is empty.
-/

namespace BuildWatch.SettingsFile

inductive Value where
  | text (value : String)
  | number (value : Int)
  | texts (values : List String)
  | choice (member : Option String)
  deriving DecidableEq, Repr

inductive Definition where
  | value (keys : List String) (value : Value)
  | section (keys : List String)
  deriving DecidableEq, Repr

def Definition.keys : Definition → List String
  | .value keys _ => keys
  | .section keys => keys

def skipComment (chars : List Char) : Option (List Char) :=
  match chars with
  | '#' :: rest =>
    let after := rest.dropWhile isPlain
    if after = [] ∨ (lineEnd? after).isSome then some after else none
  | _ => some chars

def endOfLine (chars : List Char) : Option (List Char) := do
  let rest ← skipComment (skipBlanks chars)
  if rest = [] then some [] else lineEnd? rest

def skipSpaceFrom (isComment : Bool) : List Char → Option (List Char)
  | [] => some []
  | '\n' :: rest => skipSpaceFrom false rest
  | '\r' :: '\n' :: rest => skipSpaceFrom false rest
  | char :: rest =>
    if isComment then if isPlain char then skipSpaceFrom true rest else none
    else if isBlank char then skipSpaceFrom false rest
    else if char = '#' then skipSpaceFrom true rest
    else some (char :: rest)

def skipSpace (chars : List Char) : Option (List Char) :=
  skipSpaceFrom false chars

def isBare (char : Char) : Bool :=
  char.isAlphanum || char = '_' || char = '-'

def simpleKey : Reader String := fun chars =>
  match chars with
  | '"' :: rest => escapedText [] rest
  | first :: rest =>
    if first = singleQuote then literalText [] rest
    else
      let name := chars.takeWhile isBare
      if name = [] then none else some (String.ofList name, chars.drop name.length)
  | [] => none

def keysWithin : Nat → Reader (List String)
  | 0, _ => none
  | budget + 1, chars => do
    let (key, rest) ← simpleKey chars
    match skipBlanks rest with
    | '.' :: rest =>
      let (keys, rest) ← keysWithin budget (skipBlanks rest)
      some (key :: keys, rest)
    | rest => some ([key], rest)

def keys : Reader (List String) := fun chars =>
  keysWithin ((chars.takeWhile (· ≠ '\n')).length + 1) chars

def textsWithin : Nat → Reader (List String)
  | 0, _ => none
  | budget + 1, chars => do
    match ← skipSpace chars with
    | ']' :: rest => some ([], rest)
    | rest =>
      let (value, rest) ← text rest
      match ← skipSpace rest with
      | ',' :: rest =>
        let (values, rest) ← textsWithin budget rest
        some (value :: values, rest)
      | ']' :: rest => some ([value], rest)
      | _ => none

def texts : Reader (List String) := fun chars =>
  textsWithin (chars.length + 1) chars

def choice : Reader (Option String) := fun chars => do
  match skipBlanks chars with
  | '}' :: rest => some (none, rest)
  | rest =>
    let (key, rest) ← simpleKey rest
    match skipBlanks rest with
    | '=' :: rest =>
      let rest ← match skipBlanks rest with
        | '{' :: rest =>
          match skipBlanks rest with
          | '}' :: rest => some rest
          | _ => none
        | '[' :: rest =>
          match ← skipSpace rest with
          | ']' :: rest => some rest
          | _ => none
        | _ => none
      match skipBlanks rest with
      | '}' :: rest => some (some key, rest)
      | _ => none
    | _ => none

def value : Reader Value := fun chars =>
  match chars with
  | '[' :: rest => (texts rest).map fun (values, rest) => (.texts values, rest)
  | '{' :: rest => (choice rest).map fun (member, rest) => (.choice member, rest)
  | _ =>
    match text chars with
    | some (value, rest) => some (.text value, rest)
    | none => (number chars).map fun (value, rest) => (.number value, rest)

def line (current : List String) (chars : List Char) :
    Option (Option Definition × List String × List Char) := do
  match skipBlanks chars with
  | '[' :: rest =>
    let (names, rest) ← keys (skipBlanks rest)
    match rest with
    | ']' :: rest => some (some (.section names), names, ← endOfLine rest)
    | _ => none
  | rest =>
    match endOfLine rest with
    | some after => some (none, current, after)
    | none =>
      let (names, rest) ← keys rest
      match rest with
      | '=' :: rest =>
        let (value, rest) ← value (skipBlanks rest)
        some (some (.value (current ++ names) value), current, ← endOfLine rest)
      | _ => none

/-- The definitions of the lines from some point on, of which there are fewer than the budget;
those read so far stand in `taken` from the last to the first. -/
def linesWithin (taken : List Definition) (current : List String) :
    Nat → List Char → Option (List Definition)
  | _, [] => some taken.reverse
  | 0, _ => none
  | budget + 1, chars =>
    match line current chars with
    | none => none
    | some (definition, next, after) =>
      linesWithin (definition.toList ++ taken) next budget after

def lines (chars : List Char) : Option (List Definition) :=
  linesWithin [] [] chars.length chars

def byteOrderMark : Char := Char.ofNat 0xFEFF

def definitions (content : String) : Option (List Definition) :=
  match content.toList with
  | first :: rest => lines (if first = byteOrderMark then rest else first :: rest)
  | [] => some []

end BuildWatch.SettingsFile

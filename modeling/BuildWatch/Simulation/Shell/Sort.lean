import BuildWatch.Simulation.Shell.Lines

/-!
The program that sorts lines. Lines are compared by keys, each with an order of its own, and at
last as they are.
-/

namespace BuildWatch.Simulation.Shell

structure KeyOrder where
  letters : List Char

def KeyOrder.has (order : KeyOrder) (letter : Char) : Bool := order.letters.contains letter

/-- The part of a line that is compared: from a character of a field to a character of a field,
where no last character means the whole field and no last field the end of the line. -/
structure SortKey where
  firstField : Nat
  firstChar : Nat
  lastField : Option Nat
  lastChar : Nat
  order : KeyOrder

structure LeadingNumber where
  isNegative : Bool
  whole : List Char
  places : List Char

def readLeadingNumber (chars : List Char) : LeadingNumber :=
  let chars := chars.dropWhile isBlank
  let (isNegative, chars) := match chars with
    | '-' :: rest => (true, rest)
    | chars => (false, chars)
  let whole := chars.takeWhile Char.isDigit
  let places := match chars.drop whole.length with
    | '.' :: rest => rest.takeWhile Char.isDigit
    | _ => []
  ⟨isNegative, whole, places⟩

def LeadingNumber.value (number : LeadingNumber) (places : Nat) : Int :=
  let digits := number.whole ++ (number.places ++ fill (places - number.places.length) '0')
  let value : Int := digitsValue 10 digits
  if number.isNegative then -value else value

def compareNumbers (left right : LeadingNumber) : Ordering :=
  let places := max left.places.length right.places.length
  compare (left.value places) (right.value places)

def KeyOrder.compare (order : KeyOrder) (left right : List Char) : Ordering :=
  let spelled (chars : List Char) : String :=
    String.ofList (if order.has 'f' then chars.map Char.toUpper else chars)
  let outcome :=
    if order.has 'n' then compareNumbers (readLeadingNumber left) (readLeadingNumber right)
    else Ord.compare (spelled left) (spelled right)
  if order.has 'r' then outcome.swap else outcome

def afterFields (separator : Option Char) : Nat → List Char → List Char
  | 0, chars => chars
  | count + 1, chars =>
    match separator with
    | some separator =>
      afterFields (some separator) count ((chars.dropWhile (· ≠ separator)).drop 1)
    | none =>
      afterFields none count ((chars.dropWhile isBlank).dropWhile fun char => !isBlank char)

def SortKey.part (key : SortKey) (separator : Option Char) (line : List Char) : List Char :=
  let skip (chars : List Char) : List Char :=
    if key.order.has 'b' then chars.dropWhile isBlank else chars
  let start := (skip (afterFields separator key.firstField line)).drop key.firstChar
  let startPlace := line.length - start.length
  match key.lastField with
  | none => start
  | some field =>
    let place :=
      if key.lastChar = 0 then
        let rest := afterFields separator field line
        let last := afterFields separator (field + 1) line
        match separator with
        | some separator => line.length - rest.length + (rest.takeWhile (· ≠ separator)).length
        | none => line.length - last.length
      else line.length - (skip (afterFields separator field line)).length + key.lastChar
    start.take (place - startPlace)

def readKeyPlace (spelled text : String) : Except String (Nat × Option Nat × List Char) := do
  let chars := text.toList
  let digits := chars.takeWhile Char.isDigit
  let rest := chars.drop digits.length
  if digits.isEmpty then
    throw ("invalid number at field start: invalid count at start of " ++ quotedName text)
  if digitsValue 10 digits = 0 then
    throw ("field number is zero: invalid field specification " ++ quotedName spelled)
  match rest with
  | '.' :: rest =>
    let places := rest.takeWhile Char.isDigit
    .ok (digitsValue 10 digits, some (digitsValue 10 places), rest.drop places.length)
  | rest => .ok (digitsValue 10 digits, none, rest)

def readKey (text : String) : Except String SortKey := do
  match text.splitOn "," with
  | [start] =>
    let (field, char, letters) ← readKeyPlace text start
    .ok ⟨field - 1, char.getD 1 - 1, none, 0, ⟨letters⟩⟩
  | start :: last :: _ =>
    let (field, char, letters) ← readKeyPlace text start
    let (lastField, lastChar, lastLetters) ← readKeyPlace text last
    .ok ⟨field - 1, char.getD 1 - 1, some (lastField - 1), lastChar.getD 0,
      ⟨letters ++ lastLetters⟩⟩
  | [] => throw ("invalid field specification " ++ quotedName text)

def orderLetters : List String := ["b", "f", "n", "r"]

def sortOptions : List ProgramOption :=
  [flag 'b' "ignore-leading-blanks", flag 'f' "ignore-case", flag 'n' "numeric-sort",
    flag 'r' "reverse", flag 's' "stable", flag 'u' "unique", valued 'k' "key",
    valued 't' "field-separator"]

def compareByKeys (separator : Option Char) (left right : List Char) : List SortKey → Ordering
  | [] => .eq
  | key :: rest =>
    match key.order.compare (key.part separator left) (key.part separator right) with
    | .eq => compareByKeys separator left right rest
    | order => order

def withoutRepeats (same : String → String → Bool) : List String → List String
  | [] => []
  | line :: rest =>
    match withoutRepeats same rest with
    | next :: others => if same line next then line :: others else line :: next :: others
    | [] => [line]

def runSort : Program := fun arguments =>
  match readOptions sortOptions true arguments with
  | .error reason => misuse "sort" reason 2
  | .ok options => do
    let failed (reason : String) : Action Nat := do
      complainFor "sort" reason
      return 2
    let separator := options.value? "t"
    if (separator.getD "x") = "" then return ← failed "empty tab"
    if 1 < (separator.getD "").length then
      return ← failed ("multi-character tab " ++ quotedName (separator.getD ""))
    let separator := separator.bind fun text => text.toList.head?
    let letters := options.given.filterMap fun pair =>
      if orderLetters.contains pair.1 then pair.1.toList.head? else none
    match (options.valuesOf "k").mapM readKey with
    | .error reason => failed reason
    | .ok keys =>
      let inherit (key : SortKey) : SortKey :=
        if key.order.letters.isEmpty then { key with order := ⟨letters⟩ } else key
      let whole : SortKey := ⟨0, 0, none, 0, ⟨letters⟩⟩
      let keys := if keys.isEmpty then [whole] else keys.map inherit
      let byKeys (left right : String) : Ordering :=
        compareByKeys separator left.toList right.toList keys
      let isReversed := letters.contains 'r'
      let isFinal := options.has "u" || options.has "s"
      let order (left right : String) : Ordering :=
        match byKeys left right with
        | .eq =>
          if isFinal then .eq
          else if isReversed then (compare left right).swap else compare left right
        | order => order
      let mut lines := []
      for file in if options.operands.isEmpty then ["-"] else options.operands do
        match ← contentOf file with
        | .ok content => lines := lines ++ linesOf (octets content)
        | .error error =>
          let verb := if error = .isADirectory then "read failed" else "cannot read"
          return ← failed (verb ++ ": " ++ shownName file ++ ": " ++ errorName error)
      let sorted := lines.mergeSort fun left right => order left right ≠ .gt
      print (unlines (if options.has "u" then
          withoutRepeats (fun left right => byKeys left right = .eq) sorted
        else sorted))
      return 0

end BuildWatch.Simulation.Shell

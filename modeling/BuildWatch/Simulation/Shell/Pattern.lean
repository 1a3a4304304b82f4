import BuildWatch.Simulation.Shell.Machine

/-!
Patterns: texts in which some unquoted characters stand for others. A pattern is matched by keeping
the set of all that may still follow, so that no way through it is tried twice.
-/

namespace BuildWatch.Simulation.Shell

structure Letter where
  char : Char
  isQuoted : Bool
  deriving DecidableEq, Repr

def lettersOf (isQuoted : Bool) (text : String) : List Letter :=
  text.toList.map (⟨·, isQuoted⟩)

def textOfLetters (letters : List Letter) : String :=
  String.ofList (letters.map Letter.char)

def characterRange (first last : Char) : List Char :=
  (List.range (last.toNat + 1 - first.toNat)).map fun offset => Char.ofNat (first.toNat + offset)

def characterClass? (name : String) : Option (List Char) :=
  let lower := characterRange 'a' 'z'
  let upper := characterRange 'A' 'Z'
  let digits := characterRange '0' '9'
  let graphic := characterRange '!' '~'
  match name with
  | "lower" => some lower
  | "upper" => some upper
  | "alpha" => some (upper ++ lower)
  | "digit" => some digits
  | "alnum" => some (digits ++ upper ++ lower)
  | "xdigit" => some (digits ++ characterRange 'A' 'F' ++ characterRange 'a' 'f')
  | "blank" => some [' ', '\t']
  | "space" => some ([9, 10, 11, 12, 13, 32].map Char.ofNat)
  | "punct" => some (graphic.filter fun char => !char.isAlphanum)
  | "graph" => some graphic
  | "print" => some (' ' :: graphic)
  | "cntrl" => some ((List.range 32 ++ [127]).map Char.ofNat)
  | _ => none

inductive PatternPiece where
  | any
  | one
  | oneOf (isNegated : Bool) (chars : List Char)
  | exactly (char : Char)
  deriving DecidableEq, Repr

abbrev Pattern := List PatternPiece

def readClass? (letters : List Letter) : Option (List Char × List Letter) :=
  match letters with
  | ⟨'[', false⟩ :: ⟨':', _⟩ :: rest =>
    let name := rest.takeWhile fun letter => letter.char.isAlpha
    match rest.drop name.length with
    | ⟨':', _⟩ :: ⟨']', _⟩ :: after =>
      (characterClass? (textOfLetters name)).map fun chars => (chars, after)
    | _ => none
  | _ => none

def readBracket (isFirst : Bool) : Nat → List Letter → Option (List Char × List Letter)
  | 0, _ => none
  | _, [] => none
  | fuel + 1, letter :: rest =>
    let add (chars : List Char) (rest : List Letter) : Option (List Char × List Letter) :=
      (readBracket false fuel rest).map fun (others, after) => (chars ++ others, after)
    if letter = ⟨']', false⟩ && !isFirst then some ([], rest)
    else match readClass? (letter :: rest) with
      | some (chars, after) => add chars after
      | none =>
        let (first, rest) := match letter, rest with
          | ⟨'\\', false⟩, next :: rest => (next.char, rest)
          | letter, rest => (letter.char, rest)
        match rest with
        | ⟨'-', false⟩ :: last :: after =>
          if last = ⟨']', false⟩ then add [first] rest
          else add (characterRange first last.char) after
        | rest => add [first] rest

def patternOf : Nat → List Letter → Pattern
  | 0, _ => []
  | _, [] => []
  | fuel + 1, letter :: rest =>
    if letter.isQuoted then .exactly letter.char :: patternOf fuel rest
    else match letter.char, rest with
      | '*', rest => .any :: patternOf fuel rest
      | '?', rest => .one :: patternOf fuel rest
      | '\\', next :: rest => .exactly next.char :: patternOf fuel rest
      | '[', rest =>
        let isNegated := rest.head? = some ⟨'!', false⟩
        match readBracket true fuel (if isNegated then rest.drop 1 else rest) with
        | some (chars, after) => .oneOf isNegated chars :: patternOf fuel after
        | none => .exactly '[' :: patternOf fuel rest
      | char, rest => .exactly char :: patternOf fuel rest

def Pattern.ofLetters (letters : List Letter) : Pattern :=
  patternOf (letters.length + 1) letters

def PatternPiece.accepts (char : Char) : PatternPiece → Bool
  | .any | .one => true
  | .oneOf isNegated chars => chars.contains char != isNegated
  | .exactly own => char = own

def Pattern.starts : Pattern → List Pattern
  | .any :: rest => (.any :: rest) :: starts rest
  | pattern => [pattern]

def Pattern.after (char : Char) : Pattern → List Pattern
  | [] => []
  | .any :: rest => (PatternPiece.any :: rest) :: Pattern.starts rest
  | piece :: rest => if piece.accepts char then Pattern.starts rest else []

def withoutCopies (patterns : List Pattern) : List Pattern :=
  patterns.foldr (fun pattern others =>
    if others.any fun other => other.length = pattern.length then others else pattern :: others) []

def advance (patterns : List Pattern) (char : Char) : List Pattern :=
  withoutCopies (patterns.flatMap (Pattern.after char))

def Pattern.accepts (pattern : Pattern) (text : List Char) : Bool :=
  (text.foldl advance pattern.starts).any List.isEmpty

def acceptedLengths (length : Nat) (patterns : List Pattern) : List Char → List Nat
  | [] => if patterns.any List.isEmpty then [length] else []
  | char :: rest =>
    (if patterns.any List.isEmpty then [length] else []) ++
      if patterns.isEmpty then [] else acceptedLengths (length + 1) (advance patterns char) rest

def withoutStart (longest : Bool) (pattern : Pattern) (text : List Char) : List Char :=
  let lengths := acceptedLengths 0 pattern.starts text
  match if longest then lengths.getLast? else lengths.head? with
  | some length => text.drop length
  | none => text

def withoutEnd (longest : Bool) (pattern : Pattern) (text : List Char) : List Char :=
  (withoutStart longest pattern.reverse text.reverse).reverse

def hasPattern (letters : List Letter) : Bool :=
  letters.any fun letter => !letter.isQuoted && "*?[".toList.contains letter.char

def splitLetters : List Letter → List (List Letter)
  | [] => [[]]
  | letter :: rest =>
    if letter.char = '/' then [] :: splitLetters rest
    else match splitLetters rest with
      | [] => [[letter]]
      | part :: parts => (letter :: part) :: parts

def namesFor (machine : Machine) (directory : String) (part : List Letter) : List String :=
  let place := if directory = "" then "." else directory
  match machine.resolve place with
  | .ok (.found location .directory) =>
    let names := (machine.tree.children location).map fun child => octets child.1.toByteArray
    let showsHidden := part.head?.any fun letter => letter.char = '.'
    let pattern := Pattern.ofLetters part
    (if showsHidden then "." :: ".." :: names else names).filter fun name =>
      (showsHidden || !name.startsWith ".") && pattern.accepts name.toList
  | _ => []

def Machine.hasEntry (machine : Machine) (name : String) : Bool :=
  match machine.resolve name with
  | .ok (.found _ _) => true
  | _ =>
    !name.endsWith "/" && (machine.tree.entry? (machine.tree.locate (machine.pathOf name))).isSome

def placesFor (machine : Machine) (before : String) : List (List Letter) → List String
  | [] => []
  | [part] =>
    if hasPattern part then (namesFor machine before part).map (before ++ ·)
    else
      let place := before ++ textOfLetters part
      if machine.hasEntry place then [place] else []
  | part :: rest =>
    if hasPattern part then
      (namesFor machine before part).flatMap fun name =>
        placesFor machine (before ++ name ++ "/") rest
    else placesFor machine (before ++ textOfLetters part ++ "/") rest

def textsFor (machine : Machine) (letters : List Letter) : List String :=
  if hasPattern letters && !machine.options.contains 'f' then
    let places := placesFor machine "" (splitLetters letters)
    if places.isEmpty then [textOfLetters letters]
    else places.mergeSort fun left right => left ≤ right
  else [textOfLetters letters]

end BuildWatch.Simulation.Shell

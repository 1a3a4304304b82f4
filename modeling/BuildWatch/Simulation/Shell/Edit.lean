import BuildWatch.Simulation.Shell.Lines
import BuildWatch.Simulation.Shell.Regex

/-!
The language of the program that edits lines by a script: substitutions, printing, deleting and
quitting, for selected lines. A fault is given with the number of characters that are left behind
it.
-/

namespace BuildWatch.Simulation.Shell

inductive EditAddress where
  | line (number : Nat)
  | last
  | regex (regex : Option Regex)

structure EditSelection where
  first : Option EditAddress
  ending : Option EditAddress
  isNegated : Bool

inductive ReplacementPart where
  | text (char : Char)
  | group (index : Nat)

structure Substitute where
  regex : Option Regex
  parts : List ReplacementPart
  isGlobal : Bool
  number : Nat
  prints : Nat

inductive EditAction where
  | substitution (substitution : Substitute)
  | plain (letter : Char)

structure EditCommand where
  selection : EditSelection
  action : EditAction

abbrev EditReading := Except (String × Nat)

def editEscapes : List (Char × Char) := [('a', Char.ofNat 7), ('f', Char.ofNat 12),
  ('n', '\n'), ('r', '\r'), ('t', '\t'), ('v', Char.ofNat 11)]

def readDelimited (delimiter : Char) (isRegex : Bool) (inBracket : Bool) :
    List Char → Option (List Char × List Char)
  | [] => none
  | '\\' :: char :: rest =>
    let piece := if char = delimiter then [char]
      else if char = 'n' && isRegex then ['\n'] else ['\\', char]
    (readDelimited delimiter isRegex inBracket rest).map fun (text, after) => (piece ++ text, after)
  | char :: rest =>
    if char = delimiter && !inBracket then some ([], rest)
    else if char = '\n' && isRegex then none
    else
      let inBracket := if !isRegex then false
        else if inBracket then char ≠ ']' else char = '[' && rest.contains ']'
      (readDelimited delimiter isRegex inBracket rest).map fun (text, after) =>
        (char :: text, after)

def withoutEscapes : List Char → List Char
  | '\\' :: 'x' :: high :: low :: rest =>
    match hexValue? high, hexValue? low with
    | some high, some low => Char.ofNat (high * 16 + low) :: withoutEscapes rest
    | _, _ => '\\' :: 'x' :: withoutEscapes (high :: low :: rest)
  | '\\' :: char :: rest =>
    match if char = 'n' then none else editEscapes.lookup char with
    | some value => value :: withoutEscapes rest
    | none => '\\' :: char :: withoutEscapes rest
  | char :: rest => char :: withoutEscapes rest
  | [] => []
termination_by chars => chars.length
decreasing_by all_goals simp only [List.length_cons]; omega

def replacementParts : List Char → List ReplacementPart
  | [] => []
  | '&' :: rest => .group 0 :: replacementParts rest
  | '\\' :: char :: rest =>
    (if char.isDigit then .group (char.toNat - 48)
      else .text ((editEscapes.lookup char).getD char)) :: replacementParts rest
  | char :: rest => .text char :: replacementParts rest

structure SubstituteFlags where
  isGlobal : Bool
  number : Nat
  prints : Nat
  ignoresCase : Bool

def readSubstituteFlags (flags : SubstituteFlags) : List Char →
    EditReading (SubstituteFlags × List Char)
  | [] => .ok (flags, [])
  | char :: rest =>
    if char = 'g' then
      if flags.isGlobal then
        .error ("multiple " ++ String.ofList [backquote, 'g', singleQuote] ++ " options to " ++
          String.ofList [backquote, 's', singleQuote] ++ " command", rest.length)
      else readSubstituteFlags { flags with isGlobal := true } rest
    else if char = 'p' then readSubstituteFlags { flags with prints := flags.prints + 1 } rest
    else if char = 'i' || char = 'I' then
      readSubstituteFlags { flags with ignoresCase := true } rest
    else if char.isDigit then
      let number := if flags.number = 0 then char.toNat - 48
        else flags.number * 10 + (char.toNat - 48)
      if number = 0 then
        .error ("number option to " ++ String.ofList [backquote, 's', singleQuote] ++
          " command may not be zero", rest.length)
      else readSubstituteFlags { flags with number } rest
    else if char = ';' || char = '\n' || isBlank char then
      .ok (flags, char :: rest)
    else .error ("unknown option to " ++ String.ofList [backquote, 's', singleQuote], rest.length)

def readDigits (chars : List Char) : Nat × List Char :=
  let digits := chars.takeWhile Char.isDigit
  (digitsValue 10 digits, chars.drop digits.length)

def readEditRegex (isExtended ignoresCase : Bool) (left : Nat) (text : List Char) :
    EditReading (Option Regex) :=
  if text.isEmpty then .ok none
  else match Regex.ofText isExtended ignoresCase (String.ofList (withoutEscapes text)) with
    | .ok regex => .ok (some regex)
    | .error reason => .error (reason, left)

def readAddress (isExtended : Bool) (chars : List Char) :
    EditReading (Option (EditAddress × List Char)) := do
  let regex (delimiter : Char) (rest : List Char) :
      EditReading (Option (EditAddress × List Char)) := do
    match readDelimited delimiter true false rest with
    | none => .error ("unterminated address regex", 0)
    | some (text, after) =>
      let flags := after.takeWhile fun char => char = 'I' || char = 'M'
      let regex ← readEditRegex isExtended (flags.contains 'I') after.length text
      .ok (some (.regex regex, after.drop flags.length))
  match chars with
  | '$' :: rest => .ok (some (.last, rest))
  | '/' :: rest => regex '/' rest
  | '\\' :: delimiter :: rest => regex delimiter rest
  | char :: _ =>
    if char.isDigit then
      let (first, rest) := readDigits chars
      .ok (some (.line first, rest))
    else .ok none
  | [] => .ok none

def readSelection (isExtended : Bool) (chars : List Char) :
    EditReading (EditSelection × List Char) := do
  let skip (chars : List Char) : List Char := chars.dropWhile isBlank
  let negation (first ending : Option EditAddress) (rest : List Char) :
      EditSelection × List Char :=
    let rest := skip rest
    let marks := rest.takeWhile fun char => char = '!' || isBlank char
    (⟨first, ending, marks.contains '!'⟩, rest.drop marks.length)
  match ← readAddress isExtended chars with
  | none => .ok (negation none none chars)
  | some (first, rest) =>
    match first, skip rest with
    | first, ',' :: rest =>
      match ← readAddress isExtended (skip rest) with
      | some (ending, rest) => .ok (negation (some first) (some ending) rest)
      | none =>
        .error ("unexpected " ++ String.ofList [backquote, ',', singleQuote], rest.length - 1)
    | .line 0, rest => .error ("invalid usage of line address 0", rest.length - 1)
    | first, rest => .ok (negation (some first) none rest)

def endOfCommand (chars : List Char) : EditReading (List Char) :=
  match chars.dropWhile isBlank with
  | [] => .ok []
  | char :: rest =>
    if char = ';' || char = '\n' then .ok rest
    else .error ("extra characters after command", rest.length)

def quotedCommand (char : Char) : String := String.ofList [backquote, char, singleQuote]

def readAction (isExtended : Bool) (letter : Char) (rest : List Char) :
    EditReading (EditAction × List Char) := do
  let unterminated : String × Nat := ("unterminated " ++ quotedCommand 's' ++ " command", 0)
  if letter = 's' then
    match rest with
    | [] => .error unterminated
    | delimiter :: rest =>
      match readDelimited delimiter true false rest with
      | none => .error unterminated
      | some (text, rest) =>
        match readDelimited delimiter false false rest with
        | none => .error unterminated
        | some (replacement, rest) =>
          let (flags, after) ← readSubstituteFlags ⟨false, 0, 0, false⟩ rest
          let regex ← readEditRegex isExtended flags.ignoresCase after.length text
          .ok (.substitution ⟨regex, replacementParts (withoutEscapes replacement),
            flags.isGlobal, max flags.number 1, flags.prints⟩, ← endOfCommand after)
  else if "=dpq".toList.contains letter then .ok (.plain letter, ← endOfCommand rest)
  else .error ("unknown command: " ++ quotedCommand letter, rest.length)

def readEditCommands (isExtended : Bool) : Nat → List Char → EditReading (List EditCommand)
  | 0, _ => .ok []
  | fuel + 1, chars => do
    match chars.dropWhile fun char => char.isWhitespace || char = ';' with
    | [] => .ok []
    | chars =>
      match ← readSelection isExtended chars with
      | (_, []) => .error ("missing command", 0)
      | (selection, letter :: rest) =>
        let (action, after) ← readAction isExtended letter rest
        .ok (⟨selection, action⟩ :: (← readEditCommands isExtended fuel after))

def editCommandsOf (isExtended : Bool) (script : String) :
    Except (Nat × String) (Array EditCommand) :=
  match readEditCommands isExtended (script.length + 1) script.toList with
  | .ok commands => .ok commands.toArray
  | .error (reason, left) => .error (script.length - left, reason)

end BuildWatch.Simulation.Shell

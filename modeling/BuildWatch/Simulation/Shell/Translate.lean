import BuildWatch.Simulation.Shell.Option
import BuildWatch.Simulation.Shell.Pattern

/-!
The program that replaces, squeezes and deletes characters.
-/

namespace BuildWatch.Simulation.Shell

inductive SetItem where
  | chars (chars : List Char)
  | repeated (char : Char)

def readSetChar (chars : List Char) : Option (Char × Bool × List Char) :=
  match chars with
  | [] => none
  | '\\' :: rest =>
    if rest.isEmpty then some (backslash, false, [])
    else
      let digits := (rest.take 3).takeWhile isOctal
      if !digits.isEmpty then
        some (Char.ofNat (octalValue digits % 256), true, rest.drop digits.length)
      else match rest with
        | char :: after =>
          let known := "abfnrtv".toList.idxOf? char
          let value := (known.bind fun index => [7, 8, 12, 10, 13, 9, 11][index]?).map Char.ofNat
          some (value.getD char, true, after)
        | [] => none
  | char :: rest => some (char, false, rest)

def readSet : Nat → List Char → Except String (List SetItem)
  | 0, _ => .ok []
  | _, [] => .ok []
  | fuel + 1, chars => do
    let add (item : SetItem) (rest : List Char) : Except String (List SetItem) := do
      .ok (item :: (← readSet fuel rest))
    let named (close : List Char) (rest : List Char) : Option (List Char × List Char) :=
      let name := rest.takeWhile fun char => some char ≠ close.head?
      if close.isPrefixOf (rest.drop name.length) then
        some (name, rest.drop (name.length + close.length))
      else none
    let plain : Except String (List SetItem) :=
      match readSetChar chars with
      | none => .ok []
      | some (first, _, '-' :: rest) =>
        match readSetChar rest with
        | some (last, _, after) =>
          if last < first then
            .error ("range-endpoints of " ++ quotedName (String.ofList [first, '-', last]) ++
              " are in reverse collating sequence order")
          else add (.chars (characterRange first last)) after
        | none => add (.chars [first]) ['-']
      | some (first, _, rest) => add (.chars [first]) rest
    match chars with
    | '[' :: ':' :: rest =>
      match named [':', ']'] rest with
      | some (name, after) =>
        match characterClass? (String.ofList name) with
        | some chars => add (.chars chars) after
        | none => .error ("invalid character class " ++ quotedName (String.ofList name))
      | none => plain
    | '[' :: '=' :: rest =>
      match named ['=', ']'] rest with
      | some ([char], after) => add (.chars [char]) after
      | _ => plain
    | '[' :: rest =>
      match readSetChar rest with
      | some (char, _, '*' :: after) =>
        match named [']'] after with
        | some (digits, after) =>
          if digits.isEmpty || digits.all (· = '0') then add (.repeated char) after
          else if digits.all Char.isDigit then
            let base := if digits.head? = some '0' then 8 else 10
            add (.chars (List.replicate (digitsValue base digits) char)) after
          else plain
        | none => plain
      | _ => plain
    | _ => plain

def charactersOfSet (length : Nat) (items : List SetItem) : List Char :=
  let known := items.foldl (fun count item =>
    match item with
    | .chars chars => count + chars.length
    | .repeated _ => count) 0
  items.flatMap fun item =>
    match item with
    | .chars chars => chars
    | .repeated char => List.replicate (length - known) char

def allCharacters : List Char := (List.range 256).map Char.ofNat

def squeezed (set : List Char) : List Char → List Char
  | first :: second :: rest =>
    if first = second && set.contains first then squeezed set (second :: rest)
    else first :: squeezed set (second :: rest)
  | chars => chars

def runTranslate : Program := fun arguments =>
  match readOptions [flag 'c' "complement", flag 'C' "", flag 'd' "delete",
      flag 's' "squeeze-repeats", flag 't' "truncate-set1"] false arguments with
  | .error reason => misuse "tr" reason 1
  | .ok options => do
    let deletes := options.has "d"
    let squeezes := options.has "s"
    let wanted := if deletes = squeezes then 2 else 1
    let explained (text explanation : String) : Action Nat := do
      complainFor "tr" text
      complain (explanation ++ "\n")
      referToHelp "tr"
      return 1
    match options.operands with
    | [] => return ← missingOperand "tr" none
    | [only] =>
      if wanted = 2 then
        return ← explained ("missing operand after " ++ quotedName only)
          (if deletes then "Two strings must be given when both deleting and squeezing repeats."
            else "Two strings must be given when translating.")
    | _ :: extra :: rest =>
      if deletes && !squeezes then
        if rest.isEmpty then
          return ← explained ("extra operand " ++ quotedName extra)
            "Only one string may be given when deleting without squeezing repeats."
        else return ← extraOperand "tr" extra
      else if !rest.isEmpty then return ← extraOperand "tr" (rest.headD "")
    let read (text : String) : Except String (List SetItem) :=
      readSet (text.length + 1) text.toList
    match (options.operands.mapM read : Except String (List (List SetItem))) with
    | .error reason => refuse "tr" reason
    | .ok sets =>
      let source := charactersOfSet 0 (sets.headD [])
      let source := if options.has "c" || options.has "C" then
          allCharacters.filter fun char => !source.contains char
        else source
      let target := (sets[1]?).map (charactersOfSet source.length)
      if target = some [] && !deletes then
        return ← refuse "tr" "when not truncating set1, string2 must be non-empty"
      match ← contentOf "-" with
      | .error error => refuse "tr" ("read error: " ++ errorName error)
      | .ok content =>
        let chars := (octets content).toList
        let chars := if deletes then chars.filter fun char => !source.contains char
          else match target with
            | none => chars
            | some target =>
              let source := if options.has "t" then source.take target.length else source
              let pairs := (source.zipIdx.map fun (char, index) =>
                (char, (target[index]?).getD (target.getLast?.getD char))).reverse
              let table := (allCharacters.map fun char => (pairs.lookup char).getD char).toArray
              chars.map fun char => (table[char.toNat]?).getD char
        let chars := if squeezes then squeezed (target.getD source) chars else chars
        print (String.ofList chars)
        return 0

end BuildWatch.Simulation.Shell

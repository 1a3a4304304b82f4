import BuildWatch.Simulation.Shell.Streams

/-!
Programs that print parts of the lines of their input or files, number them, or leave out those that
repeat.
-/

namespace BuildWatch.Simulation.Shell

structure PlaceRange where
  first : Nat
  last : Option Nat

def PlaceRange.holds (range : PlaceRange) (place : Nat) : Bool :=
  range.first ≤ place && range.last.all (place ≤ ·)

def readRange (ofFields : Bool) (text : String) : Except String PlaceRange :=
  let invalid (part : String) : String :=
    (if ofFields then "invalid field value " else "invalid byte/character position ") ++
      quotedName part
  let numberOf (part : String) : Except String Nat :=
    if part.toList.all Char.isDigit then
      if digitsValue 10 part.toList = 0 then
        .error (if ofFields then "fields are numbered from 1"
          else "byte/character positions are numbered from 1")
      else .ok (digitsValue 10 part.toList)
    else .error (invalid part)
  match text.splitOn "-" with
  | ["", ""] => .error "invalid range with no endpoint: -"
  | ["", last] => do .ok ⟨1, some (← numberOf last)⟩
  | [first, ""] => do .ok ⟨← numberOf first, none⟩
  | [first, last] => do
    let first ← numberOf first
    let last ← numberOf last
    if last < first then .error "invalid decreasing range" else .ok ⟨first, some last⟩
  | [place] => do
    if place = "" then throw (if ofFields then "fields are numbered from 1"
      else "byte/character positions are numbered from 1")
    let place ← numberOf place
    .ok ⟨place, some place⟩
  | _ => .error (invalid text)

def selectedItems {α : Type} (ranges : List PlaceRange) (items : List α) : List α :=
  (items.zipIdx.filter fun item => ranges.any fun range => range.holds (item.2 + 1)).map Prod.fst

def cutOptions : List ProgramOption :=
  [valued 'b' "bytes", valued 'c' "characters", valued 'd' "delimiter", valued 'f' "fields",
    flag 's' "only-delimited"]

def runCut : Program :=
  withOptions "cut" 1 cutOptions fun options => do
    let lists := options.given.filter fun pair => ["b", "c", "f"].contains pair.1
    let ofFields := options.has "f"
    let wrong (reason : String) : Action Nat := misuse "cut" reason 1
    match lists with
    | [] => wrong "you must specify a list of bytes, characters, or fields"
    | _ :: _ :: _ => wrong "only one list may be specified"
    | [(_, list)] =>
      let ranges := (list.map (fun char => if isBlank char then ',' else char)).splitOn ","
      match ranges.mapM (readRange ofFields) with
      | .error reason => wrong reason
      | .ok ranges =>
        let delimiter := (options.value? "d").getD "\t"
        if !ofFields && options.has "d" then
          wrong "an input delimiter may be specified only when operating on fields"
        else if !ofFields && options.has "s" then
          wrong "suppressing non-delimited lines makes sense\n\tonly when operating on fields"
        else if 1 < delimiter.length then wrong "the delimiter must be a single character"
        else
          let delimiter := if delimiter = "" then String.singleton (Char.ofNat 0) else delimiter
          let cutLine (line : String) : List String :=
            if !ofFields then [String.ofList (selectedItems ranges line.toList)]
            else
              let fields := line.splitOn delimiter
              if fields.length = 1 then if options.has "s" then [] else [line]
              else [String.intercalate delimiter (selectedItems ranges fields)]
          withContents "cut" options.operands fun _ content =>
            print (unlines ((linesOf (octets content)).flatMap cutLine))

def groupLines (key : String → String) : List String → List (List String)
  | [] => []
  | line :: rest =>
    match groupLines key rest with
    | (next :: others) :: groups =>
      if key line = key next then (line :: next :: others) :: groups
      else [line] :: (next :: others) :: groups
    | groups => [line] :: groups

def runUnique : Program :=
  withOptions "uniq" 1 [flag 'c' "count", flag 'd' "repeated", flag 'u' "unique",
      flag 'i' "ignore-case"] fun options => do
    let key (line : String) : String := if options.has "i" then line.toUpper else line
    match options.operands with
    | _ :: _ :: extra :: _ => extraOperand "uniq" extra
    | operands =>
      match ← contentOf (operands.headD "-") with
      | .error error => refuse "uniq" (shownName (operands.headD "-") ++ ": " ++ errorName error)
      | .ok content =>
        let groups := groupLines key (linesOf (octets content))
        let shown := groups.flatMap fun group =>
          let count := group.length
          if options.has "d" && count = 1 || options.has "u" && count ≠ 1 then []
          else
            let label := if options.has "c" then padLeft 7 (toString count) ++ " " else ""
            [label ++ group.headD ""]
        match operands with
        | _ :: target :: _ =>
          match ← openForWriting .emptied target with
          | .error error => refuse "uniq" (shownName target ++ ": " ++ errorName error)
          | .ok channel =>
            sendTo channel (bytesOf (unlines shown))
            return 0
        | _ =>
          print (unlines shown)
          return 0

def runNumberLines : Program :=
  withOptions "nl" 1 [valued 'b' "body-numbering"] fun options => do
    let (text, status) ← allContents "nl" options.operands
    let numbersEmpty := options.value? "b" = some "a"
    let (lines, _) := (linesOf text).foldl (fun (lines, number) line =>
      if numbersEmpty || line ≠ "" then
        (lines.push (padLeft 6 (toString number) ++ "\t" ++ line), number + 1)
      else (lines.push (String.ofList (fill 7 ' ')), number))
      ((#[] : Array String), 1)
    print (unlines lines.toList)
    return status

end BuildWatch.Simulation.Shell

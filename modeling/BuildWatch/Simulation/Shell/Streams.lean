import BuildWatch.Simulation.Shell.Option

/-!
Programs that copy their input or files, whole or in part.
-/

namespace BuildWatch.Simulation.Shell

def openOperand (file : String) : Action (Except FileError Nat) := do
  if file = "-" then
    return match (← get).handles.lookup standardInput with
      | some channel => .ok channel
      | none => .error (.system 9)
  openForReading file

def emitForever (bytes : ByteArray) : Nat → Action Unit
  | 0 => throw .exhausted
  | fuel + 1 => do
    emit bytes
    emitForever bytes fuel

def endlessBlocks : Nat := 4096

def block (bytes : ByteArray) : ByteArray :=
  (List.replicate (16384 / max bytes.size 1 + 1) bytes).foldl (· ++ ·) ByteArray.empty

def copyChannel (channel : Nat) : Action (Except FileError Unit) := do
  match (← get).channels[channel]? with
  | some (.device .zero) =>
    emitForever (block (ByteArray.mk #[0])) endlessBlocks
    return .ok ()
  | _ =>
    match ← takeFrom channel none with
    | .error error => return .error error
    | .ok (bytes, isComplete) =>
      emit bytes
      waitUnless isComplete
      return .ok ()

def visible (char : Char) : String :=
  let low (number : Nat) : String :=
    if number < 32 then "^" ++ String.singleton (Char.ofNat (number + 64))
    else if number = 127 then "^?"
    else String.singleton (Char.ofNat number)
  if char.toNat < 128 then low char.toNat else "M-" ++ low (char.toNat - 128)

structure Listing where
  numbers : Bool
  skipsEmpty : Bool
  squeezes : Bool
  showsHidden : Bool
  showsTabs : Bool
  showsEnds : Bool

def padLeft (width : Nat) (text : String) : String :=
  String.ofList (fill (width - text.length) ' ') ++ text

def Listing.lines (listing : Listing) (number : Nat) (afterEmpty : Bool) :
    List String → List String
  | [] => []
  | line :: rest =>
    let isEmpty := line = "\n"
    if listing.squeezes && isEmpty && afterEmpty then listing.lines number true rest
    else
      let isNumbered := listing.numbers && !(listing.skipsEmpty && isEmpty)
      let label := if isNumbered then padLeft 6 (toString number) ++ "\t" else ""
      let shown (char : Char) : String :=
        if char = '\n' then if listing.showsEnds then "$\n" else "\n"
        else if char = '\t' then if listing.showsTabs then "^I" else "\t"
        else if listing.showsHidden then visible char
        else String.singleton char
      (label ++ String.join (line.toList.map shown)) ::
        listing.lines (if isNumbered then number + 1 else number) isEmpty rest

def runCat : Program :=
  withOptions "cat" 1 [flag 'b' "number-nonblank", flag 'n' "number", flag 's' "squeeze-blank",
      flag 'v' "show-nonprinting", flag 'E' "show-ends", flag 'T' "show-tabs", flag 'A' "show-all",
      flag 'e' "", flag 't' "", flag 'u' ""] fun options => do
    let hasAny (keys : List String) : Bool := keys.any options.has
    let listing : Listing := {
      numbers := hasAny ["b", "n"]
      skipsEmpty := options.has "b"
      squeezes := options.has "s"
      showsHidden := hasAny ["v", "A", "e", "t"]
      showsTabs := hasAny ["T", "A", "t"]
      showsEnds := hasAny ["E", "A", "e"] }
    if hasAny ["b", "n", "s", "v", "E", "T", "A", "e", "t"] then
      let (text, status) ← allContents "cat" options.operands
      print (String.join (listing.lines 1 false (piecesOf text)))
      return status
    let standard := (← get).channel? standardOutput
    forEachFile options.operands fun file => do
      let complainOf (text : String) : Action Nat := refuse "cat" (shownName file ++ ": " ++ text)
      match ← openOperand file with
      | .error error => complainOf (errorName error)
      | .ok channel =>
        let isSame := match standard, (← get).channels[channel]? with
          | some (_, .file out _ _), some (.file own position _) => out = own && position = 0
          | _, _ => false
        if isSame && ((← get).contentOf channel).1.size ≠ 0 then
          complainOf "input file is output file"
        else match ← copyChannel channel with
          | .ok () => return 0
          | .error error => complainOf (errorName error)

structure Extent where
  inBytes : Bool
  count : Nat
  isReversed : Bool

def placeAfterLines (bytes : ByteArray) : Nat → Nat → Nat
  | 0, position => position
  | count + 1, position =>
    match lineEnd? bytes (bytes.size - position) position with
    | some place => placeAfterLines bytes count (place + 1)
    | none => bytes.size

def lineCount (bytes : ByteArray) : Nat :=
  let ends := bytes.data.foldl (fun count byte => if byte = 10 then count + 1 else count) 0
  if bytes.size ≠ 0 && bytes.get! (bytes.size - 1) ≠ 10 then ends + 1 else ends

def Extent.headEnd (extent : Extent) (bytes : ByteArray) : Nat :=
  match extent.inBytes, extent.isReversed with
  | true, false => min extent.count bytes.size
  | true, true => bytes.size - extent.count
  | false, false => placeAfterLines bytes extent.count 0
  | false, true => placeAfterLines bytes (lineCount bytes - extent.count) 0

def Extent.tailStart (extent : Extent) (bytes : ByteArray) : Nat :=
  match extent.inBytes, extent.isReversed with
  | true, false => bytes.size - extent.count
  | true, true => min (extent.count - 1) bytes.size
  | false, false => placeAfterLines bytes (lineCount bytes - extent.count) 0
  | false, true => placeAfterLines bytes (extent.count - 1) 0

def extentOf (inBytes : Bool) (reversal : Char) (value : String) : Except String Extent :=
  let what := if inBytes then "bytes" else "lines"
  let isReversed := value.toList.head? = some reversal
  let digits := match value.toList with
    | '-' :: rest | '+' :: rest => String.ofList rest
    | chars => String.ofList chars
  match sizedNumber? digits with
  | some count =>
    if count < 1 <<< 64 then .ok ⟨inBytes, count, isReversed⟩
    else .error ("invalid number of " ++ what ++ ": " ++ quotedName value ++
      ": Value too large for defined data type")
  | none => .error ("invalid number of " ++ what ++ ": " ++ quotedName value)

def partOptions : List ProgramOption :=
  [valued 'c' "bytes", valued 'n' "lines", flag 'q' "quiet", flag 'q' "silent", flag 'v' "verbose",
    flag 'f' "follow"]

def withNumberOption (arguments : List String) : List String :=
  match arguments with
  | first :: rest =>
    match first.toList with
    | '-' :: digit :: others =>
      let digits := (digit :: others).takeWhile Char.isDigit
      let letters := (digit :: others).drop digits.length
      let kind := if letters.contains 'c' then "-c" else "-n"
      let extra := letters.filter fun letter => letter ≠ 'c' && letter ≠ 'l'
      if digits.isEmpty then arguments
      else kind :: String.ofList digits ::
        ((if extra.isEmpty then [] else [String.ofList ('-' :: extra)]) ++ rest)
    | _ => arguments
  | [] => []

def extentFrom (reversal : Char) (options : Options) : Except String Extent :=
  match options.given.reverse.find? fun pair => pair.1 = "c" || pair.1 = "n" with
  | some (key, value) => extentOf (key = "c") reversal value
  | none => .ok ⟨false, 10, false⟩

def showParts (program : String) (options : Options)
    (showPart : Nat → Action (Except FileError Unit)) : Action Nat := do
  let files := if options.operands.isEmpty then ["-"] else options.operands
  let isNamed := options.has "v" || 1 < files.length && !options.has "q"
  let mut isFirst := true
  let mut status := 0
  for file in files do
    match ← openOperand file with
    | .error error =>
      status ← refuse program
        ("cannot open " ++ quotedName file ++ " for reading: " ++ errorName error)
    | .ok channel =>
      if isNamed then
        let name := if file = "-" then "standard input" else file
        print ((if isFirst then "" else "\n") ++ "==> " ++ name ++ " <==\n")
      isFirst := false
      match ← showPart channel with
      | .ok () => pure ()
      | .error error =>
        status ← refuse program ("error reading " ++ quotedName file ++ ": " ++ errorName error)
  return status

def readAhead : Nat := 8192

def showHead (extent : Extent) (channel : Nat) : Action (Except FileError Unit) := do
  if extent.inBytes && !extent.isReversed then
    match ← takeFrom channel (some extent.count) with
    | .error error => return .error error
    | .ok (bytes, isComplete) =>
      emit bytes
      waitUnless isComplete
      return .ok ()
  match ← takeFrom channel none with
  | .error error => return .error error
  | .ok (bytes, isComplete) =>
    let place := extent.headEnd bytes
    emit (bytes.extract 0 place)
    let isEnough := !extent.isReversed &&
      (extent.count ≤ (bytes.extract 0 place).data.foldl
        (fun count byte => if byte = 10 then count + 1 else count) 0)
    waitUnless (isComplete || isEnough)
    (PartialContent.mk channel bytes isComplete).leaveAt place readAhead
    return .ok ()

def runHead : Program := fun arguments =>
  withOptions "head" 1 partOptions (fun options =>
    match extentFrom '-' options with
    | .ok extent => showParts "head" options (showHead extent)
    | .error reason => refuse "head" reason) (withNumberOption arguments)

def runTail : Program := fun arguments =>
  let arguments := match arguments with
    | first :: rest =>
      if first.startsWith "+" && (dropped first 1).toNat?.isSome then "-n" :: first :: rest
      else withNumberOption arguments
    | [] => []
  withOptions "tail" 1 partOptions (fun options =>
    match extentFrom '+' options with
    | .ok extent => showParts "tail" options fun channel => do
      match ← takeFrom channel none with
      | .error error => return .error error
      | .ok (bytes, isComplete) =>
        waitUnless isComplete
        emit (bytes.extract (extent.tailStart bytes) bytes.size)
        waitUnless (!options.has "f")
        return .ok ()
    | .error reason => refuse "tail" reason) arguments

def runTee : Program :=
  withOptions "tee" 1 [flag 'a' "append"] fun options => do
      let mut channels := []
      let mut status := 0
      for file in options.operands do
        match ← openForWriting (if options.has "a" then .appended else .emptied) file with
        | .ok channel => channels := channels ++ [channel]
        | .error error => status ← refuse "tee" (shownName file ++ ": " ++ errorName error)
      match ← openOperand "-" with
      | .error _ => return 1
      | .ok input =>
        match ← takeFrom input none with
        | .error error => refuse "tee" ("read error: " ++ errorName error)
        | .ok (bytes, isComplete) =>
          for channel in channels do
            sendTo channel bytes
          emit bytes
          waitUnless isComplete
          return status

structure BlockCopy where
  size : Nat
  outputSize : Nat
  count : Option Nat
  skips : Nat
  source : Option String
  target : Option String
  isSilent : Bool

def readBlockCopy (copy : BlockCopy) : List String → Except (String × Bool) BlockCopy
  | [] => .ok copy
  | operand :: rest => do
    let (name, value) := match splitAtEqual operand with
      | (name, some value) => (name, value)
      | (_, none) => ("", "")
    let number : Except (String × Bool) Nat :=
      match sizedNumber? value with
      | some number => .ok number
      | none => .error ("invalid number: " ++ quotedName value, false)
    match name with
    | "bs" | "ibs" | "obs" =>
      let size ← number
      if size = 0 then throw ("invalid number: " ++ quotedName value, false)
      readBlockCopy {
        copy with
        size := if name = "obs" then copy.size else size
        outputSize := if name = "ibs" then copy.outputSize else size } rest
    | "count" => readBlockCopy { copy with count := some (← number) } rest
    | "skip" => readBlockCopy { copy with skips := ← number } rest
    | "if" => readBlockCopy { copy with source := some value } rest
    | "of" => readBlockCopy { copy with target := some value } rest
    | "status" => readBlockCopy { copy with isSilent := value = "none" } rest
    | _ => throw ("unrecognized operand " ++ quotedName operand, true)

def runBlocks : Program := fun arguments => do
  match readBlockCopy ⟨512, 512, none, 0, none, none, false⟩ arguments with
  | .error (reason, isMisuse) =>
    if isMisuse then misuse "dd" reason 1 else refuse "dd" reason
  | .ok copy =>
    let failed (file : Option String) (error : FileError) : Action Nat :=
      refuse "dd" ("failed to open " ++ quotedName (file.getD "-") ++ ": " ++ errorName error)
    match ← openOperand (copy.source.getD "-") with
    | .error error => failed copy.source error
    | .ok source =>
      let target ← match copy.target with
        | some file => openForWriting .emptied file
        | none => pure <| match (← get).handles.lookup standardOutput with
          | some channel => .ok channel
          | none => .error (.system 9)
      match target with
      | .error error => failed copy.target error
      | .ok target =>
        discard (takeFrom source (some (copy.skips * copy.size)))
        let isEndless := match (← get).channels[source]? with
          | some (.device .zero) => copy.count.isNone
          | _ => false
        if isEndless then throw .exhausted
        match ← takeFrom source (copy.count.map (· * copy.size)) with
        | .error error =>
          refuse "dd" ("error reading " ++ quotedName (copy.source.getD "standard input") ++ ": " ++
            errorName error)
        | .ok (bytes, isComplete) =>
          sendTo target bytes
          waitUnless isComplete
          if !copy.isSilent then
            let records (size : Nat) : String :=
              toString (bytes.size / size) ++ if bytes.size % size = 0 then "+0" else "+1"
            complain (records copy.size ++ " records in\n" ++ records copy.outputSize ++
              " records out\n")
          return 0

def runYes : Program := fun arguments => do
  let words := if arguments.head? = some "--" then arguments.drop 1 else arguments
  let line := if words.isEmpty then "y" else String.intercalate " " words
  emitForever (block (bytesOf (line ++ "\n"))) endlessBlocks
  return 0

def runTac : Program :=
  withOptions "tac" 1 [] fun options =>
    withContents "tac" options.operands fun _ content =>
      print (String.join (piecesOf (octets content)).reverse)

def runRev : Program :=
  withOptions "rev" 1 [] fun options => forEachFile options.operands fun file => do
    match ← contentOf file with
    | .error error => refuse "rev" ("cannot open " ++ file ++ ": " ++ errorName error)
    | .ok content =>
      print (String.join ((piecesOf (octets content)).map fun line =>
        let chars := line.toList.filter (· ≠ '\n')
        String.ofList chars.reverse ++ if line.endsWith "\n" then "\n" else ""))
      return 0

end BuildWatch.Simulation.Shell

import BuildWatch.Simulation.Shell.Condition
import BuildWatch.Simulation.Shell.Streams

/-!
Programs that show bytes as numbers: dumps and counts.
-/

namespace BuildWatch.Simulation.Shell

inductive DumpKind where
  | number (base : Nat) (isSigned : Bool)
  | char
  deriving DecidableEq, Repr

structure DumpFormat where
  kind : DumpKind
  size : Nat

def sizeIndex (size : Nat) : Nat :=
  match size with
  | 1 => 0
  | 2 => 1
  | 4 => 2
  | _ => 3

def DumpFormat.width (format : DumpFormat) : Nat :=
  let widths := match format.kind with
    | .number 8 _ => [3, 6, 11, 22]
    | .number 16 _ => [2, 4, 8, 16]
    | .number _ true => [4, 6, 11, 20]
    | .number _ false => [3, 5, 10, 20]
    | .char => [3]
  widths.getD (sizeIndex format.size) 3

def zeroPadded (width : Nat) (digits : List Char) : String :=
  String.ofList (fill (width - digits.length) '0' ++ digits)

def DumpFormat.show (format : DumpFormat) (bytes : List UInt8) : String :=
  let value : Nat := bytes.foldr (fun byte value => value * 256 + byte.toNat) 0
  match format.kind with
  | .number 10 isSigned =>
    let limit := 1 <<< (8 * format.size)
    if isSigned && limit ≤ 2 * value then toString ((value : Int) - limit) else toString value
  | .number base _ => zeroPadded format.width (Nat.toDigits base value)
  | .char =>
    match [0, 7, 8, 9, 10, 11, 12, 13].idxOf? value with
    | some index => "\\" ++ taken (dropped "0abtnvfr" index) 1
    | none =>
      if 32 ≤ value && value < 127 then String.singleton (Char.ofNat value)
      else zeroPadded 3 (Nat.toDigits 8 value)

def chunks {α : Type} (size : Nat) : Nat → List α → List (List α)
  | 0, _ => []
  | _, [] => []
  | fuel + 1, items => items.take size :: chunks size fuel (items.drop size)

def DumpFormat.line (format : DumpFormat) (width perBlock : Nat) (bytes : List UInt8) : String :=
  let count := perBlock / format.size
  let padding := width - format.width * count
  let items := chunks format.size (bytes.length + 1) bytes
  let shown := items.zipIdx.map fun (item, index) =>
    let left := padding * (count - index) / count
    let next := padding * (count - index - 1) / count
    padLeft (format.width + left - next) (format.show item)
  String.join shown

def readFormats (spelled : String) : Nat → List Char → Except String (List DumpFormat)
  | 0, _ => .ok []
  | _, [] => .ok []
  | fuel + 1, letter :: rest => do
    let digits := rest.takeWhile Char.isDigit
    let (size, after) ← match digits, rest with
      | [], 'C' :: after => pure (1, after)
      | [], 'S' :: after => pure (2, after)
      | [], 'I' :: after => pure (4, after)
      | [], 'L' :: after => pure (8, after)
      | [], after => pure (4, after)
      | digits, _ =>
        let size := digitsValue 10 digits
        if [1, 2, 4, 8].contains size then pure (size, rest.drop digits.length)
        else throw ("invalid type string " ++ quotedName spelled ++
          ";\nthis system doesn" ++ String.singleton singleQuote ++ "t provide a " ++
          toString size ++ "-byte integral type")
    let (kind, size, after) ← match letter with
      | 'c' => pure (DumpKind.char, 1, rest)
      | 'd' => pure (.number 10 true, size, after)
      | 'u' => pure (.number 10 false, size, after)
      | 'o' => pure (.number 8 false, size, after)
      | 'x' => pure (.number 16 false, size, after)
      | _ => throw ("invalid character " ++ quotedLetter letter ++ " in type string " ++
          quotedName spelled)
    return ⟨kind, size⟩ :: (← readFormats spelled fuel after)

def dumpLetters : List (Char × String) :=
  [('b', "o1"), ('c', "c"), ('d', "u2"), ('o', "o2"), ('x', "x2")]

def dumpAddress (radix : Char) (address : Nat) : String :=
  match radix with
  | 'd' => zeroPadded 7 (Nat.toDigits 10 address)
  | 'x' => zeroPadded 6 (Nat.toDigits 16 address)
  | 'n' => ""
  | _ => zeroPadded 7 (Nat.toDigits 8 address)

def dumpLines (formats : List DumpFormat) (radix : Char) (showsAll : Bool) :
    Nat → Nat → Option (List UInt8) → Bool → List UInt8 → List String
  | 0, _, _, _, _ => []
  | fuel + 1, address, before, isStarred, bytes =>
    let block := bytes.take 16
    if block.isEmpty then if radix = 'n' then [] else [dumpAddress radix address]
    else if !showsAll && before = some block && block.length = 16 then
      let others := dumpLines formats radix showsAll fuel (address + 16) before true (bytes.drop 16)
      if isStarred then others else "*" :: others
    else
      let width := formats.foldl (fun width format =>
        max width ((format.width + 1) * (16 / format.size))) 0
      let label := dumpAddress radix address
      let blank := String.ofList (fill label.length ' ')
      let lines := formats.zipIdx.map fun (format, index) =>
        (if index = 0 then label else blank) ++ format.line width 16 block
      lines ++ dumpLines formats radix showsAll fuel (address + block.length) (some block) false
        (bytes.drop 16)

def dumpRadices : List String := ["d", "o", "x", "n"]

def runDump : Program :=
  withOptions "od" 1 ([valued 'A' "address-radix", valued 'N' "read-bytes", valued 't' "format",
      flag 'v' "output-duplicates"] ++
      dumpLetters.map fun pair => flag pair.1 "") fun options => do
    let radix := (options.value? "A").getD "o"
    let types := options.given.filterMap fun (key, value) =>
      if key = "t" then some value else key.toList.head?.bind (dumpLetters.lookup ·)
    let types := if types.isEmpty then ["o2"] else types
    if !dumpRadices.contains radix then
      return ← refuse "od" ("invalid output address radix " ++ quotedName radix ++
        "; it must be one character from [doxn]")
    match types.mapM fun type => readFormats type (type.length + 1) type.toList with
    | .error reason => refuse "od" reason
    | .ok formats =>
      let limit := (options.value? "N").bind sizedNumber?
      let mut bytes := ByteArray.empty
      let mut status := 0
      for file in if options.operands.isEmpty then ["-"] else options.operands do
        match ← openOperand file with
        | .error error => status ← refuse "od" (shownName file ++ ": " ++ errorName error)
        | .ok channel =>
          match ← takeFrom channel (limit.map (· - bytes.size)) with
          | .error error => status ← refuse "od" (shownName file ++ ": " ++ errorName error)
          | .ok (more, isComplete) =>
            waitUnless isComplete
            bytes := bytes ++ more
      let shown := bytes.data.toList
      if status = 0 || !shown.isEmpty then
        print (unlines (dumpLines formats.flatten ((radix.toList).headD 'o') (options.has "v")
          (shown.length + 2) 0 none false shown))
      return status

structure Counts where
  lines : Nat
  words : Nat
  bytes : Nat

def Counts.add (left right : Counts) : Counts :=
  ⟨left.lines + right.lines, left.words + right.words, left.bytes + right.bytes⟩

def countsOf (content : ByteArray) : Counts :=
  let isGap (byte : UInt8) : Bool := byte = 32 || (9 ≤ byte && byte ≤ 13)
  (content.data.foldl (fun (counts, inWord) byte =>
    ({ counts with
      lines := if byte = 10 then counts.lines + 1 else counts.lines
      words := if !inWord && !isGap byte then counts.words + 1 else counts.words },
      !isGap byte))
    ((⟨0, 0, content.size⟩ : Counts), false)).1

def runCount : Program :=
  withOptions "wc" 1 [flag 'c' "bytes", flag 'm' "chars", flag 'l' "lines", flag 'w' "words"]
    fun options => do
      let asked (key : String) : Bool := options.has key
      let asksNone := ["c", "m", "l", "w"].all fun letter => !asked letter
      let columns (counts : Counts) : List Nat :=
        (if asksNone || asked "l" then [counts.lines] else []) ++
        (if asksNone || asked "w" then [counts.words] else []) ++
        (if asked "m" then [counts.bytes] else []) ++
        (if asksNone || asked "c" then [counts.bytes] else [])
      let files := if options.operands.isEmpty then ["-"] else options.operands
      let machine ← get
      let sizeOf (file : String) : Option (Option Nat) :=
        if file = "-" then
          match machine.channel? standardInput with
          | some (_, .file location _ _) => some (some (contentAt machine.tree location).size)
          | _ => some none
        else match machine.entryOf? file with
          | some (_, .file content) => some (some content.size)
          | some _ => some none
          | none => none
      let sizes := files.filterMap sizeOf
      let total := sizes.foldl (fun total size => total + size.getD 0) 0
      let width := if files.length = 1 && (columns ⟨0, 0, 0⟩).length = 1 then 1
        else if (sizeOf (files.headD "-")).isNone && files.length = 1 then 1
        else max (toString total).length (if sizes.any Option.isNone then 7 else 1)
      let show' (counts : Counts) (name : String) : Action Unit :=
        print (String.intercalate " "
          ((columns counts).map fun number => padLeft width (toString number)) ++ name ++ "\n")
      let mut sum : Counts := ⟨0, 0, 0⟩
      let mut status := 0
      for file in files do
        let name := if options.operands.isEmpty then "" else " " ++ shownName file
        match ← contentOf file with
        | .ok content =>
          let counts := countsOf content
          sum := sum.add counts
          show' counts name
        | .error error =>
          status ← refuse "wc" (shownName file ++ ": " ++ errorName error)
          if error = .isADirectory then show' ⟨0, 0, 0⟩ name
      if 1 < files.length then show' sum " total"
      return status

end BuildWatch.Simulation.Shell

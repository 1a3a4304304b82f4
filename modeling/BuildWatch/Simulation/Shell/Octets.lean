/-!
Octets: text whose characters stand for the bytes with their numbers. Scripts and the programs they
run know bytes only, so a letter that takes two bytes counts twice.
-/

namespace BuildWatch.Simulation.Shell

def octets (bytes : ByteArray) : String :=
  String.ofList (bytes.data.toList.map fun byte => Char.ofNat byte.toNat)

def bytesOf (text : String) : ByteArray :=
  (text.toList.map fun char => UInt8.ofNat char.toNat).toByteArray

def octetsOfText (text : String) : String :=
  octets text.toUTF8

def singleQuote : Char := Char.ofNat 39
def doubleQuote : Char := Char.ofNat 34
def backslash : Char := Char.ofNat 92
def backquote : Char := Char.ofNat 96
def newline : Char := Char.ofNat 10

def isBlank (char : Char) : Bool := char = ' ' || char = '\t'

def dropped (text : String) (count : Nat) : String :=
  String.ofList (text.toList.drop count)

def taken (text : String) (count : Nat) : String :=
  String.ofList (text.toList.take count)

def linesOf (text : String) : List String :=
  let lines := text.splitOn "\n"
  if lines.getLast? = some "" then lines.dropLast else lines

def unlines (lines : List String) : String :=
  String.join (lines.map (· ++ "\n"))

def splitAtEqual (text : String) : String × Option String :=
  match text.splitOn "=" with
  | name :: value :: rest => (name, some (String.intercalate "=" (value :: rest)))
  | _ => (text, none)

def isOctal (char : Char) : Bool := '0' ≤ char && char ≤ '7'

def octalValue (digits : List Char) : Nat :=
  digits.foldl (fun value digit => value * 8 + (digit.toNat - 48)) 0

def hexValue? (char : Char) : Option Nat :=
  if char.isDigit then some (char.toNat - 48)
  else if 'a' ≤ char && char ≤ 'f' then some (char.toNat - 87)
  else if 'A' ≤ char && char ≤ 'F' then some (char.toNat - 55)
  else none

def digitsValue (base : Nat) (digits : List Char) : Nat :=
  digits.foldl (fun value digit => value * base + (hexValue? digit).getD 0) 0

def isPlainName (name : String) : Bool :=
  let isPlain (char : Char) : Bool := char.isAlphanum || "%+,-./]_@".toList.contains char
  match name.toList with
  | [] => false
  | [char] => isPlain char
  | first :: rest =>
    (isPlain first || "\x7b\x7d".toList.contains first) &&
      rest.all fun char => isPlain char || "\x7b\x7d~#".toList.contains char

def quotedPieces : Nat → List Char → String
  | 0, _ => ""
  | _, [] => ""
  | fuel + 1, char :: rest =>
    let quote := String.singleton singleQuote
    let isShown (char : Char) : Bool := 32 ≤ char.toNat && char.toNat < 127
    if isShown char then
      let plain := (char :: rest).takeWhile fun char => isShown char && char ≠ singleQuote
      if plain.isEmpty then "\\" ++ quote ++ quotedPieces fuel rest
      else quote ++ String.ofList plain ++ quote ++
        quotedPieces fuel ((char :: rest).drop plain.length)
    else
      let hidden := (char :: rest).takeWhile fun char => !isShown char
      let spelled := hidden.map fun char =>
        match char.toNat with
        | 7 => "\\a"
        | 8 => "\\b"
        | 9 => "\\t"
        | 10 => "\\n"
        | 11 => "\\v"
        | 12 => "\\f"
        | 13 => "\\r"
        | number =>
          let digits := Nat.toDigits 8 number
          "\\" ++ String.ofList (List.replicate (3 - digits.length) '0' ++ digits)
      "$" ++ quote ++ String.join spelled ++ quote ++
        quotedPieces fuel ((char :: rest).drop hidden.length)

def quotedName (name : String) : String :=
  let quote := String.singleton singleQuote
  if name = "" then quote ++ quote
  else if name.toList.contains singleQuote && name.toList.all fun char =>
      32 ≤ char.toNat && char.toNat < 127 && !"\"$!\\".toList.contains char &&
        char ≠ backquote then
    "\"" ++ name ++ "\""
  else
    let pieces := quotedPieces (name.length + 1) name.toList
    if pieces.startsWith "$" then quote ++ quote ++ pieces else pieces

def shownName (name : String) : String :=
  if isPlainName name then name else quotedName name

end BuildWatch.Simulation.Shell

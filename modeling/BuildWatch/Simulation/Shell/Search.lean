import BuildWatch.Simulation.Shell.Lines
import BuildWatch.Simulation.Shell.Regex

/-!
The program that prints the lines of files in which an expression occurs.
-/

namespace BuildWatch.Simulation.Shell

def searchOptions : List ProgramOption :=
  [flag 'E' "extended-regexp", flag 'F' "fixed-strings", flag 'G' "basic-regexp",
    valued 'e' "regexp", flag 'i' "ignore-case", flag 'v' "invert-match", flag 'w' "word-regexp",
    flag 'x' "line-regexp", flag 'c' "count", flag 'l' "files-with-matches",
    flag 'o' "only-matching", flag 'q' "quiet", flag 'q' "silent", flag 's' "no-messages",
    flag 'n' "line-number", flag 'H' "with-filename", flag 'h' "no-filename",
    valued 'm' "max-count"]

structure Search where
  regex : Regex
  isInverted : Bool
  ofWords : Bool

def Search.findFrom (search : Search) (text : Array Char) : Nat → Nat → Option (Nat × Nat)
  | 0, _ => none
  | count + 1, place =>
    match search.regex.find text place with
    | none => none
    | some (start, found) =>
      let isWord := (start = 0 || !isWordAt text (start - 1)) && !isWordAt text found.ending
      if !search.ofWords || isWord then some (start, found.ending)
      else search.findFrom text count (start + 1)

def Search.find (search : Search) (text : Array Char) (place : Nat) : Option (Nat × Nat) :=
  search.findFrom text (text.size + 1) place

def Search.selects (search : Search) (line : String) : Bool :=
  (search.find line.toList.toArray 0).isSome != search.isInverted

def Search.all (search : Search) (text : Array Char) : Nat → Nat → List String
  | 0, _ => []
  | count + 1, place =>
    match search.find text place with
    | none => []
    | some (start, ending) =>
      if start = ending then
        if start < text.size then search.all text count (start + 1) else []
      else String.ofList (text.extract start ending).toList :: search.all text count ending

structure SearchedLine where
  number : Nat
  offset : Nat
  text : String
  isSelected : Bool

def searchedLines (search : Search) (lines : List String) : List SearchedLine :=
  (lines.foldl (fun (found, number, offset) line =>
    (⟨number, offset, line, search.selects line⟩ :: found, number + 1, offset + line.length + 1))
    (([] : List SearchedLine), 1, 0)).1.reverse

def upToCount : Nat → List SearchedLine → List SearchedLine
  | _, [] => []
  | count, line :: rest =>
    if !line.isSelected then line :: upToCount count rest
    else match count with
      | 0 => []
      | 1 => [line]
      | count + 1 => line :: upToCount count rest

def lineLabel (file : Option String) (number : Option Nat) : String :=
  (file.map (· ++ ":")).getD "" ++ (number.map (toString · ++ ":")).getD ""

def searchRegex (options : Options) (usual : String) (patterns : List String) :
    Except String Regex := do
  let kinds := options.given.filterMap fun pair =>
    if ["E", "F", "G"].contains pair.1 then some pair.1 else none
  let kind := kinds.getLast?.getD usual
  let regexes ← patterns.mapM fun pattern =>
    if kind = "F" then pure (Regex.literal (options.has "i") pattern)
    else Regex.ofText (kind = "E") (options.has "i") pattern
  let regex := match regexes with
    | [] => .oneOf false []
    | first :: rest => rest.foldl .choice first
  return if options.has "x" then .sequence .lineStart (.sequence (.group 0 regex) .lineEnd)
    else regex

def searchUsage : String :=
  "Usage: grep [OPTION]... PATTERNS [FILE]...\nTry " ++ quotedName "grep --help" ++
    " for more information.\n"

def runSearch (kind : String) : Program := fun arguments => do
  let failed (reason : String) : Action Nat := do
    complainFor "grep" reason
    return 2
  match readOptions searchOptions true arguments with
  | .error reason =>
    complainFor "grep" reason
    complain searchUsage
    return 2
  | .ok options =>
    let mut patterns := (options.valuesOf "e").flatMap (·.splitOn "\n")
    let isGiven := options.has "e"
    if !isGiven then
      match options.operands with
      | [] =>
        complain searchUsage
        return 2
      | pattern :: _ => patterns := pattern.splitOn "\n"
    let files := if isGiven then options.operands else options.operands.drop 1
    match searchRegex options kind patterns with
    | .error reason => failed reason
    | .ok regex =>
      let search : Search := ⟨regex, options.has "v", options.has "w"⟩
      let files := if files.isEmpty then ["-"] else files
      match options.value? "m" with
      | some text => if text.toNat?.isNone then return ← failed "invalid max count"
      | none => pure ()
      let isNamed := options.has "H" || !options.has "h" && 1 < files.length
      let mut isFound := false
      let mut hasFailed := false
      for file in files do
        match ← contentSoFar file with
        | .error error =>
          hasFailed := true
          if !options.has "s" then complainFor "grep" (file ++ ": " ++ errorName error)
        | .ok reading =>
          let content := reading.bytes
          let name := if file = "-" then "(standard input)" else file
          let text := octets content
          let isPartial := !reading.isComplete && !text.endsWith "\n"
          let all := searchedLines search
            (if isPartial then (linesOf text).dropLast else linesOf text)
          let limit? := (options.value? "m").bind String.toNat?
          let lines := match limit? with
            | some count => upToCount count all
            | none => all
          let selected := lines.filter SearchedLine.isSelected
          let isEnough := limit?.any (selected.length ≥ ·) ||
            options.has "q" && !selected.isEmpty
          waitUnless (reading.isComplete || isEnough)
          if isEnough && !options.has "q" then
            match lines.getLast? with
            | some line => reading.leaveAt (line.offset + line.text.length + 1) content.size
            | none => reading.leaveAt 0 content.size
          isFound := isFound || !selected.isEmpty
          let shownFile := if isNamed then some name else none
          let label (line : SearchedLine) : String :=
            lineLabel shownFile (if options.has "n" then some line.number else none)
          if options.has "q" then pure ()
          else if options.has "l" then
            if selected.isEmpty then pure () else print (name ++ "\n")
          else if options.has "c" then
            print (lineLabel shownFile none ++ toString selected.length ++ "\n")
          else if content.data.contains 0 && !selected.isEmpty then
            print ("grep: " ++ name ++ ": binary file matches\n")
          else if options.has "o" then
            for line in selected do
              if !options.has "v" then
                for text in search.all line.text.toList.toArray (line.text.length + 1) 0 do
                  print (label line ++ text ++ "\n")
          else print (unlines (selected.map fun line => label line ++ line.text))
      if isFound && options.has "q" then return 0
      return if hasFailed then 2 else if isFound then 0 else 1

end BuildWatch.Simulation.Shell

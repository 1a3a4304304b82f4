import BuildWatch.Simulation.Shell.Pattern

/-!
Regular expressions in their two spellings, and the search for the first and longest text that one
of them matches.
-/

namespace BuildWatch.Simulation.Shell

inductive Regex where
  | empty
  | oneOf (isNegated : Bool) (chars : List Char)
  | sequence (left right : Regex)
  | choice (left right : Regex)
  | repeated (least : Nat) (most : Option Nat) (body : Regex)
  | group (index : Nat) (body : Regex)
  | again (index : Nat)
  | lineStart
  | lineEnd
  | wordStart
  | wordEnd
  | wordEdge (isNegated : Bool)
  deriving DecidableEq, Repr

inductive RegexToken where
  | char (char : Char)
  | oneOf (isNegated : Bool) (chars : List Char)
  | opening
  | closing
  | bar
  | repetition (least : Nat) (most : Option Nat)
  | again (index : Nat)
  | place (place : Regex)
  deriving DecidableEq, Repr

def wordCharacters : List Char :=
  '_' :: (characterRange 'a' 'z' ++ characterRange 'A' 'Z' ++ characterRange '0' '9')

def spaceCharacters : List Char := [' ', '\t', '\n', '\r', Char.ofNat 11, Char.ofNat 12]

def unmatchedBracket : String := "Unmatched [, [^, [:, [., or [="

def readRegexBracket (isFirst : Bool) : Nat → List Char → Except String (List Char × List Char)
  | 0, _ => .error unmatchedBracket
  | _, [] => .error unmatchedBracket
  | fuel + 1, char :: rest => do
    let add (chars : List Char) (after : List Char) : Except String (List Char × List Char) := do
      let (others, after) ← readRegexBracket false fuel after
      .ok (chars ++ others, after)
    if char = ']' && !isFirst then .ok ([], rest)
    else if char = '[' && rest.head? = some ':' then
      let name := (rest.drop 1).takeWhile (· ≠ ':')
      match rest.drop (1 + name.length), characterClass? (String.ofList name) with
      | _ :: ']' :: after, some chars => add chars after
      | _ :: ']' :: _, none => .error "Invalid character class name"
      | _, _ => .error unmatchedBracket
    else
      match rest with
      | '-' :: last :: after =>
        if last = ']' then add [char] rest
        else if last < char then .error "Invalid range end"
        else add (characterRange char last) after
      | _ => add [char] rest

def readBounds (closing rest : List Char) : Except String (Nat × Option Nat × List Char) := do
  let first := rest.takeWhile Char.isDigit
  let rest := rest.drop first.length
  let close (least : Nat) (most : Option Nat) (rest : List Char) :
      Except String (Nat × Option Nat × List Char) :=
    if closing.isPrefixOf rest then
      if most.any (· < least) then .error "Invalid content of \\\x7b\\\x7d"
      else .ok (least, most, rest.drop closing.length)
    else if rest.isEmpty then .error "Unmatched \\\x7b"
    else .error "Invalid content of \\\x7b\\\x7d"
  match rest with
  | ',' :: rest =>
    let last := rest.takeWhile Char.isDigit
    close (digitsValue 10 first) (if last.isEmpty then none else some (digitsValue 10 last))
      (rest.drop last.length)
  | rest =>
    if first.isEmpty then .error "Invalid preceding regular expression"
    else close (digitsValue 10 first) (some (digitsValue 10 first)) rest

def regexTokens (isExtended : Bool) : Nat → Bool → List Char → Except String (List RegexToken)
  | 0, _, _ => .ok []
  | _, _, [] => .ok []
  | fuel + 1, canRepeat, char :: rest => do
    let put (token : RegexToken) (canRepeat : Bool) (rest : List Char) :
        Except String (List RegexToken) := do
      .ok (token :: (← regexTokens isExtended fuel canRepeat rest))
    let plain (char : Char) (rest : List Char) := put (.char char) true rest
    let repetition (least : Nat) (most : Option Nat) (rest : List Char) :=
      put (.repetition least most) true rest
    /- A sign of an extended expression. -/
    let sign (char : Char) (rest : List Char) : Except String (List RegexToken) :=
      match char with
      | '(' => put .opening false rest
      | ')' => put .closing true rest
      | '|' => put .bar false rest
      | '+' => if canRepeat then repetition 1 none rest else plain char rest
      | '?' => if canRepeat then repetition 0 (some 1) rest else plain char rest
      | _ =>
        if !canRepeat && !isExtended then .error "Invalid preceding regular expression"
        else match readBounds (if isExtended then ['}'] else ['\\', '}']) rest with
          | .ok (least, most, rest) =>
            if canRepeat then repetition least most rest else plain char rest
          | .error reason => if isExtended then plain char rest else .error reason
    let isSign (char : Char) : Bool := "()|+?\x7b".toList.contains char
    match char with
    | '\\' =>
      match rest with
      | [] => .error "Trailing backslash"
      | next :: after =>
        if isSign next && !isExtended then sign next after
        else if next.isDigit && next ≠ '0' then put (.again (next.toNat - 48)) true after
        else match next with
          | 'w' => put (.oneOf false wordCharacters) true after
          | 'W' => put (.oneOf true wordCharacters) true after
          | 's' => put (.oneOf false spaceCharacters) true after
          | 'S' => put (.oneOf true spaceCharacters) true after
          | 'b' => put (.place (.wordEdge false)) true after
          | 'B' => put (.place (.wordEdge true)) true after
          | '<' => put (.place .wordStart) true after
          | '>' => put (.place .wordEnd) true after
          | _ => plain next after
    | '[' =>
      let isNegated := rest.head? = some '^'
      let (chars, after) ← readRegexBracket true fuel (if isNegated then rest.drop 1 else rest)
      put (.oneOf isNegated chars) true after
    | '.' => put (.oneOf true []) true rest
    | '*' => if canRepeat then repetition 0 none rest else plain '*' rest
    | '^' => if isExtended || !canRepeat then put (.place .lineStart) false rest else plain '^' rest
    | '$' =>
      let isLast := rest.isEmpty || ['\\', ')'].isPrefixOf rest || ['\\', '|'].isPrefixOf rest
      if isExtended || isLast then put (.place .lineEnd) true rest else plain '$' rest
    | char => if isExtended && isSign char then sign char rest else plain char rest

inductive RegexLevel where
  | choice
  | sequence
  | item
  | repeats (item : Regex)

def readRegex : Nat → RegexLevel → Nat → List RegexToken →
    Except String (Regex × Nat × List RegexToken)
  | 0, _, groups, tokens => .ok (.empty, groups, tokens)
  | fuel + 1, .choice, groups, tokens => do
    let (left, groups, after) ← readRegex fuel .sequence groups tokens
    match after with
    | .bar :: rest =>
      let (right, groups, after) ← readRegex fuel .choice groups rest
      .ok (.choice left right, groups, after)
    | after => .ok (left, groups, after)
  | fuel + 1, .sequence, groups, tokens => do
    match tokens with
    | [] | .bar :: _ | .closing :: _ => .ok (.empty, groups, tokens)
    | tokens =>
      let (item, groups, after) ← readRegex fuel .item groups tokens
      let (rest, groups, after) ← readRegex fuel .sequence groups after
      .ok (if rest = .empty then item else .sequence item rest, groups, after)
  | fuel + 1, .item, groups, tokens => do
    match tokens with
    | .char char :: rest => readRegex fuel (.repeats (.oneOf false [char])) groups rest
    | .oneOf isNegated chars :: rest =>
      readRegex fuel (.repeats (.oneOf isNegated chars)) groups rest
    | .again index :: rest =>
      if groups ≤ index then .error "Invalid back reference"
      else readRegex fuel (.repeats (.again index)) groups rest
    | .place place :: rest => readRegex fuel (.repeats place) groups rest
    | .repetition _ _ :: rest => readRegex fuel .item groups rest
    | .opening :: rest =>
      let (body, after, tokens) ← readRegex fuel .choice (groups + 1) rest
      match tokens with
      | .closing :: rest => readRegex fuel (.repeats (.group groups body)) after rest
      | _ => .error "Unmatched ( or \\("
    | .bar :: _ | .closing :: _ | [] => .ok (.empty, groups, tokens)
  | fuel + 1, .repeats item, groups, tokens =>
    match tokens with
    | .repetition least most :: rest =>
      readRegex fuel (.repeats (.repeated least most item)) groups rest
    | tokens => .ok (item, groups, tokens)

def Regex.ignoringCase : Regex → Regex
  | .oneOf isNegated chars =>
    .oneOf isNegated (chars ++ chars.map Char.toLower ++ chars.map Char.toUpper)
  | .sequence left right => .sequence left.ignoringCase right.ignoringCase
  | .choice left right => .choice left.ignoringCase right.ignoringCase
  | .repeated least most body => .repeated least most body.ignoringCase
  | .group index body => .group index body.ignoringCase
  | regex => regex

def Regex.size : Regex → Nat
  | .sequence left right | .choice left right => left.size + right.size + 1
  | .repeated least most body => (body.size + 2) * (max least (most.getD 0) + 1)
  | .group _ body => body.size + 2
  | _ => 1

def Regex.hasChoice : Regex → Bool
  | .choice _ _ => true
  | .sequence left right => left.hasChoice || right.hasChoice
  | .repeated _ _ (.oneOf _ _) => false
  | .repeated _ _ _ => true
  | .group _ body => body.hasChoice
  | _ => false

def Regex.ofText (isExtended ignoresCase : Bool) (text : String) : Except String Regex := do
  let tokens ← regexTokens isExtended (text.length + 1) false text.toList
  let (regex, _, rest) ← readRegex (4 * tokens.length + 8) .choice 1 tokens
  match rest with
  | [] => .ok (if ignoresCase then regex.ignoringCase else regex)
  | _ => .error "Unmatched ) or \\)"

def Regex.literal (ignoresCase : Bool) (text : String) : Regex :=
  let regex := text.toList.foldr (fun char rest => Regex.sequence (.oneOf false [char]) rest) .empty
  if ignoresCase then regex.ignoringCase else regex

/-- What is still to be matched: an expression, the end of a group that began at a place, or more
turns of a repetition whose last turn began at a place. -/
inductive RegexTask where
  | regex (regex : Regex)
  | close (index start : Nat)
  | more (least : Nat) (most : Option Nat) (body : Regex) (start : Option Nat)

abbrev Captures := List (Nat × Nat × Nat)

structure RegexMatch where
  ending : Nat
  captures : Captures

def isWordAt (text : Array Char) (place : Nat) : Bool :=
  (text[place]?).any fun char => char.isAlphanum || char = '_'

def longer (first second : Option RegexMatch) : Option RegexMatch :=
  match first, second with
  | some left, some right => if left.ending < right.ending then some right else some left
  | some left, none => some left
  | none, second => second

def matchTasks (text : Array Char) (triesAll : Bool) :
    Nat → List RegexTask → Nat → Captures → Option RegexMatch
  | 0, _, _, _ => none
  | _, [], place, captures => some ⟨place, captures⟩
  | fuel + 1, task :: tasks, place, captures =>
    let go (tasks : List RegexTask) := matchTasks text triesAll fuel tasks place captures
    let either (first : List RegexTask) (second : Unit → Option RegexMatch) : Option RegexMatch :=
      match go first with
      | some found => if triesAll then longer (some found) (second ()) else some found
      | none => second ()
    let holds (condition : Bool) : Option RegexMatch := if condition then go tasks else none
    let before := place ≠ 0 && isWordAt text (place - 1)
    let behind := isWordAt text place
    match task with
    | .close index start =>
      matchTasks text triesAll fuel tasks place ((index, start, place) :: captures)
    | .more least most body start =>
      if start = some place && least = 0 then none
      else
        let next : List RegexTask :=
          .regex body :: .more (least - 1) (most.map (· - 1)) body (some place) :: tasks
        if 0 < least then go next
        else if most = some 0 then go tasks
        else either next fun _ => go tasks
    | .regex regex =>
      match regex with
      | .empty => go tasks
      | .oneOf isNegated chars =>
        match text[place]? with
        | some char =>
          if chars.contains char != isNegated then
            matchTasks text triesAll fuel tasks (place + 1) captures
          else none
        | none => none
      | .sequence left right => go (.regex left :: .regex right :: tasks)
      | .choice left right =>
        either (.regex left :: tasks) fun _ => go (.regex right :: tasks)
      | .repeated least most body => go (.more least most body none :: tasks)
      | .group index body => go (.regex body :: .close index place :: tasks)
      | .again index =>
        match captures.lookup index with
        | some (start, ending) =>
          let length := ending - start
          if text.extract start ending = text.extract place (place + length) then
            matchTasks text triesAll fuel tasks (place + length) captures
          else none
        | none => none
      | .lineStart => holds (place = 0)
      | .lineEnd => holds (place = text.size)
      | .wordStart => holds (!before && behind)
      | .wordEnd => holds (before && !behind)
      | .wordEdge isNegated => holds ((before != behind) != isNegated)

def Regex.matchAt (regex : Regex) (text : Array Char) (place : Nat) : Option RegexMatch :=
  matchTasks text regex.hasChoice ((text.size + 2) * (regex.size + 4) * 4) [.regex regex] place []

def Regex.search (regex : Regex) (text : Array Char) : Nat → Nat → Option (Nat × RegexMatch)
  | 0, _ => none
  | count + 1, place =>
    match regex.matchAt text place with
    | some found => some (place, found)
    | none => regex.search text count (place + 1)

def Regex.find (regex : Regex) (text : Array Char) (place : Nat) : Option (Nat × RegexMatch) :=
  regex.search text (text.size + 1 - place) place

def RegexMatch.group (found : RegexMatch) (text : Array Char) (start index : Nat) : List Char :=
  if index = 0 then (text.extract start found.ending).toList
  else match found.captures.lookup index with
    | some (start, ending) => (text.extract start ending).toList
    | none => []

end BuildWatch.Simulation.Shell

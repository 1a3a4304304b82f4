/-!
Texts and numbers of a settings file. Texts stand in double quotes with escapes or in single quotes
without, on one line or, in three quotes, on several; a line end right after three quotes does not
count. Every reader takes the characters that follow and yields the value and what is left.
-/

namespace BuildWatch.SettingsFile

abbrev Reader (α : Type) := List Char → Option (α × List Char)

def isBlank (char : Char) : Bool :=
  char = ' ' || char = '\t'

def skipBlanks (chars : List Char) : List Char :=
  chars.dropWhile isBlank

def isPlain (char : Char) : Bool :=
  char = '\t' || 32 ≤ char.toNat && char.toNat ≠ 127

def lineEnd? : List Char → Option (List Char)
  | '\n' :: rest => some rest
  | '\r' :: '\n' :: rest => some rest
  | _ => none

theorem length_of_lineEnd? {chars rest : List Char} (h : lineEnd? chars = some rest) :
    rest.length < chars.length := by
  unfold lineEnd? at h
  split at h
  · cases h; simp only [List.length_cons]; omega
  · cases h; simp only [List.length_cons]; omega
  · cases h

def skipEmpty : List Char → List Char
  | '\r' :: '\n' :: rest => skipEmpty rest
  | char :: rest => if isBlank char || char = '\n' then skipEmpty rest else char :: rest
  | [] => []

theorem length_skipEmpty_le (chars : List Char) : (skipEmpty chars).length ≤ chars.length := by
  fun_induction skipEmpty chars with
  | case1 rest shorter => simp only [List.length_cons]; omega
  | case2 char rest _ _ shorter => simp only [List.length_cons]; omega
  | case3 | case4 => exact Nat.le_refl _

def hexValue? (char : Char) : Option Nat :=
  if char.isDigit then some (char.toNat - 48)
  else if 'a' ≤ char && char ≤ 'f' then some (char.toNat - 87)
  else if 'A' ≤ char && char ≤ 'F' then some (char.toNat - 55)
  else none

def hexNumber? (chars : List Char) (count : Nat) : Option Nat :=
  let spelled := chars.take count
  if spelled.length < count then none
  else spelled.foldlM (fun number char => (hexValue? char).map (number * 16 + ·)) 0

def scalar? (number : Nat) : Option Char :=
  if number.isValidChar then some (Char.ofNat number) else none

def escape? (chars : List Char) : Option (Char × Nat) :=
  match chars with
  | 'b' :: _ => some (Char.ofNat 8, 1)
  | 't' :: _ => some ('\t', 1)
  | 'n' :: _ => some ('\n', 1)
  | 'f' :: _ => some (Char.ofNat 12, 1)
  | 'r' :: _ => some ('\r', 1)
  | '"' :: _ => some ('"', 1)
  | '\\' :: _ => some ('\\', 1)
  | 'u' :: rest => ((hexNumber? rest 4).bind scalar?).map fun char => (char, 5)
  | 'U' :: rest => ((hexNumber? rest 8).bind scalar?).map fun char => (char, 9)
  | _ => none

def escapedText (taken : List Char) (chars : List Char) : Option (String × List Char) :=
  match chars with
  | [] => none
  | '"' :: rest => some (String.ofList taken.reverse, rest)
  | '\\' :: rest =>
    match escape? rest with
    | some (char, used) => escapedText (char :: taken) (rest.drop used)
    | none => none
  | char :: rest => if isPlain char then escapedText (char :: taken) rest else none
termination_by chars.length
decreasing_by all_goals simp only [List.length_cons, List.length_drop]; omega

def singleQuote : Char := Char.ofNat 39

def literalText (taken : List Char) : Reader String
  | [] => none
  | char :: rest =>
    if char = singleQuote then some (String.ofList taken.reverse, rest)
    else if isPlain char then literalText (char :: taken) rest
    else none

/-- What is left after a backslash at the end of a line: the line end and all blanks and line ends
that follow. -/
def continuation? (chars : List Char) : Option (List Char) :=
  (lineEnd? (skipBlanks chars)).map skipEmpty

theorem length_of_continuation? {chars rest : List Char} (h : continuation? chars = some rest) :
    rest.length ≤ chars.length := by
  obtain ⟨after, found, rfl⟩ := Option.map_eq_some_iff.1 h
  have := length_of_lineEnd? found
  have := length_skipEmpty_le after
  have : (skipBlanks chars).length ≤ chars.length := (List.dropWhile_sublist _).length_le
  omega

/-- A text on several lines, after its three quotes. In a row of quotes the last three end the
text, and at most two more belong to it. -/
def longText (quote : Char) (escapes : Bool) (taken : List Char) (chars : List Char) :
    Option (String × List Char) :=
  match chars with
  | [] => none
  | char :: rest =>
    if char = quote then
      let run := 1 + (rest.takeWhile (· = quote)).length
      if 3 ≤ run then
        let used := min run 5
        some (String.ofList (List.replicate (used - 3) quote ++ taken).reverse, chars.drop used)
      else longText quote escapes (List.replicate run quote ++ taken) (rest.drop (run - 1))
    else if escapes && char = '\\' then
      match _found : continuation? rest with
      | some after => longText quote escapes taken after
      | none =>
        match escape? rest with
        | some (char, used) => longText quote escapes (char :: taken) (rest.drop used)
        | none => none
    else match _found : lineEnd? (char :: rest) with
      | some after => longText quote escapes ('\n' :: taken) after
      | none => if isPlain char then longText quote escapes (char :: taken) rest else none
termination_by chars.length
decreasing_by
  · simp only [List.length_drop, List.length_cons]; omega
  · have := length_of_continuation? _found
    simp only [List.length_cons]; omega
  · simp only [List.length_drop, List.length_cons]; omega
  · exact length_of_lineEnd? _found
  · simp only [List.length_cons]; omega

def text : Reader String := fun chars =>
  let long (quote : Char) (escapes : Bool) (rest : List Char) : Option (String × List Char) :=
    longText quote escapes [] ((lineEnd? rest).getD rest)
  match chars with
  | '"' :: '"' :: '"' :: rest => long '"' true rest
  | '"' :: rest => escapedText [] rest
  | first :: second :: third :: rest =>
    if first = singleQuote then
      if second = singleQuote ∧ third = singleQuote then long singleQuote false rest
      else literalText [] (second :: third :: rest)
    else none
  | first :: rest => if first = singleQuote then literalText [] rest else none
  | [] => none

def digits (base : Nat) (isFirst : Bool) (number : Nat) : Reader Nat
  | [] => if isFirst then none else some (number, [])
  | char :: rest =>
    match (hexValue? char).filter (· < base) with
    | some value => digits base false (number * base + value) rest
    | none =>
      if isFirst then none
      else if char = '_' then digits base true number rest
      else some (number, char :: rest)

def decimal : Reader Nat := fun chars =>
  match chars with
  | '0' :: rest =>
    if rest.head?.any fun char => char.isDigit || char = '_' then none else some (0, rest)
  | _ => digits 10 true 0 chars

def numberLimit : Nat := 1 <<< 63

/-- A whole number of 64 bits with its sign, in base ten, or without sign in base sixteen, eight
or two. -/
def number : Reader Int := fun chars => do
  let read : Int × List Char ← match chars with
    | '+' :: rest => (decimal rest).map fun (value, rest) => (value, rest)
    | '-' :: rest => (decimal rest).map fun (value, rest) => (-value, rest)
    | '0' :: 'x' :: rest => (digits 16 true 0 rest).map fun (value, rest) => (value, rest)
    | '0' :: 'o' :: rest => (digits 8 true 0 rest).map fun (value, rest) => (value, rest)
    | '0' :: 'b' :: rest => (digits 2 true 0 rest).map fun (value, rest) => (value, rest)
    | _ => (decimal chars).map fun (value, rest) => (value, rest)
  if -(numberLimit : Int) ≤ read.1 ∧ read.1 < numberLimit then some read else none

end BuildWatch.SettingsFile

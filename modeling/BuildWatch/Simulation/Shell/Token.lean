import BuildWatch.Simulation.Shell.Word

/-!
The tokens of shell scripts, each with the number of its line. The text of a redirection from the
script itself stands in the lines behind it and belongs to its token.
-/

namespace BuildWatch.Simulation.Shell

/-- A word, an operator, a redirection of a numbered stream, or the reason why there is no further
token: the end of the script or a fault in it. -/
inductive TokenKind where
  | word (word : Word)
  | operator (symbol : String)
  | redirect (stream : Nat) (symbol : String)
  | enclosed (stream : Nat) (text : Word)
  | ending
  | fault (fault : SyntaxFault)
  deriving DecidableEq, Repr

structure Token where
  kind : TokenKind
  line : Nat
  deriving DecidableEq, Repr

def quotedSymbol (symbol : String) : String := "\"" ++ symbol ++ "\""

def operators : List String := ["&&", "||", ";;", ";", "&", "|", "(", ")", "\n"]

def redirections : List String := ["<<-", "<<", ">>", ">&", "<&", "<>", ">|", ">", "<"]

def startsWith? (chars : List Char) (symbols : List String) : Option (String × List Char) :=
  (symbols.find? fun symbol => symbol.toList.isPrefixOf chars).map fun symbol =>
    (symbol, chars.drop symbol.length)

def readRedirection (chars : List Char) : Option (Nat × String × List Char) :=
  let numbered := match chars with
    | char :: rest => if char.isDigit then some (char.toNat - 48, rest) else none
    | [] => none
  match numbered with
  | some (stream, rest) =>
    (startsWith? rest redirections).map fun (symbol, after) => (stream, symbol, after)
  | none =>
    (startsWith? chars redirections).map fun (symbol, after) =>
      (if symbol.startsWith "<" then 0 else 1, symbol, after)

/-- A text in the script that a redirection has announced: the place of its token, the line that
ends it, whether it is taken as it is, and whether tabs at the start of its lines are dropped. -/
structure Announced where
  place : Nat
  ending : String
  isLiteral : Bool
  dropsTabs : Bool

def readLines (ending : String) (dropsTabs : Bool) : Nat → List Char → String × List Char × Nat
  | 0, chars => ("", chars, 0)
  | _, [] => ("", [], 0)
  | fuel + 1, chars =>
    let line := chars.takeWhile (· ≠ newline)
    let rest := chars.dropWhile (· ≠ newline)
    let line := if dropsTabs then line.dropWhile (· = '\t') else line
    if String.ofList line = ending then ("", rest.drop 1, 1)
    else
      let (text, after, count) := readLines ending dropsTabs fuel (rest.drop 1)
      (String.ofList (line ++ rest.take 1) ++ text, after, count + 1)

def readAnnounced (tokens : Array Token) (line : Nat) (chars : List Char) :
    List Announced → Array Token × Nat × List Char
  | [] => (tokens, line, chars)
  | announced :: rest =>
    let (text, after, count) :=
      readLines announced.ending announced.dropsTabs (chars.length + 1) chars
    let kind := match tokens[announced.place]? with
      | some ⟨.enclosed stream _, _⟩ =>
        if announced.isLiteral then .enclosed stream [⟨.text text, true⟩]
        else match readQuoted line .document (text.length + 1) text.toList with
          | .ok (word, _) => .enclosed stream word
          | .error fault => .fault fault
      | _ => .ending
    readAnnounced (tokens.setIfInBounds announced.place ⟨kind, line⟩) (line + count) after rest

def countLines (chars : List Char) : Nat := chars.count newline

def nameAtStart (chars : List Char) : String :=
  if (readRedirection chars).isSome then "redirection"
  else match startsWith? chars operators with
    | some ("\n", _) => "newline"
    | some (symbol, _) => quotedSymbol symbol
    | none => "end of file"

def readTokens (tokens : Array Token) (announced : List Announced) (line : Nat) :
    Nat → List Char → Array Token
  | 0, _ => tokens.push ⟨.ending, line⟩
  | _, [] => (readAnnounced tokens line [] announced).1.push ⟨.ending, line⟩
  | fuel + 1, char :: rest =>
    let chars := char :: rest
    let put (kind : TokenKind) : Array Token := tokens.push ⟨kind, line⟩
    if char = newline then
      let (tokens, line, rest) := readAnnounced (put (.operator "\n")) (line + 1) rest announced
      readTokens tokens [] line fuel rest
    else if char.isWhitespace then readTokens tokens announced line fuel rest
    else if char = '#' then
      readTokens tokens announced line fuel (rest.dropWhile (· ≠ newline))
    else if char = backslash && rest.head? = some newline then
      readTokens tokens announced (line + 1) fuel (rest.drop 1)
    else
      let word (after : List Char) : Reading (Word × List Char) :=
        readWord line true (after.length + 1) after
      let passed (after : List Char) : Nat :=
        line + countLines (chars.take (chars.length - after.length))
      match readRedirection chars with
      | some (stream, symbol, after) =>
        if symbol.startsWith "<<" then
          let after := after.dropWhile isBlank
          match word after with
          | .ok ([], _) => put (.fault (.unexpected (nameAtStart after) none))
          | .ok (ending, after) =>
            let text := (plainText? ending).getD ""
            let new : Announced :=
              ⟨tokens.size, text, ending.any QuotablePart.isQuoted, symbol = "<<-"⟩
            readTokens (put (.enclosed stream [])) (announced ++ [new]) (passed after) fuel after
          | .error fault => put (.fault fault)
        else readTokens (put (.redirect stream symbol)) announced line fuel after
      | none =>
        match startsWith? chars operators with
        | some (symbol, after) => readTokens (put (.operator symbol)) announced line fuel after
        | none =>
          match word chars with
          | .ok (word, after) => readTokens (put (.word word)) announced (passed after) fuel after
          | .error fault => tokens.push ⟨.fault fault, line + countLines chars⟩

def tokensFrom (line : Nat) (script : String) : List Token :=
  (readTokens #[] [] line (script.length + 1) script.toList).toList

end BuildWatch.Simulation.Shell

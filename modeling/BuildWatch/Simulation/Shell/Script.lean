import BuildWatch.Simulation.Shell.Token

/-!
The commands of shell scripts: simple commands, pipelines, lists, branches, choices, loops and
functions. A script is read one complete line at a time, because what was read runs before the next
line is looked at.
-/

namespace BuildWatch.Simulation.Shell

structure Redirection where
  stream : Nat
  symbol : String
  target : Word
  deriving DecidableEq, Repr

inductive Script where
  | nothing
  | simple (line : Nat) (words : List Word) (redirections : List Redirection)
  | pipe (left right : Script)
  | both (left right : Script)
  | either (left right : Script)
  | sequence (left right : Script)
  | background (script : Script)
  | negated (script : Script)
  | branch (condition yes no : Script)
  | loop (whileTrue : Bool) (condition body : Script)
  | each (line : Nat) (name : String) (words : List Word) (body : Script)
  | choice (line : Nat) (subject : Word) (arms : Script)
  | arm (patterns : List Word) (body others : Script)
  | group (isSubshell : Bool) (body : Script) (redirections : List Redirection)
  | function (name : String) (body : Script)
  deriving DecidableEq, Repr

abbrev ScriptReading := Except (SyntaxFault × Nat)

def reservedWords : List String := ["!", "case", "do", "done", "elif", "else", "esac", "fi", "for",
  "if", "in", "then", "until", "while", "\x7b", "\x7d"]

def leading? (tokens : List Token) : Option String :=
  match tokens with
  | ⟨.word word, _⟩ :: _ => (bareText? word).filter reservedWords.contains
  | ⟨.operator symbol, _⟩ :: _ => some symbol
  | _ => none

def skipNewlines : List Token → List Token
  | ⟨.operator "\n", _⟩ :: rest => skipNewlines rest
  | tokens => tokens

def tokenName (couldBeReserved : Bool) (tokens : List Token) : String :=
  match tokens with
  | ⟨.word _, _⟩ :: _ =>
    match leading? tokens with
    | some word => if couldBeReserved then quotedSymbol word else "word"
    | none => "word"
  | ⟨.operator "\n", _⟩ :: _ => "newline"
  | ⟨.operator symbol, _⟩ :: _ => quotedSymbol symbol
  | ⟨.redirect _ _, _⟩ :: _ | ⟨.enclosed _ _, _⟩ :: _ => "redirection"
  | _ => "end of file"

def complainOf (tokens : List Token) (couldBeReserved : Bool) (expected : Option String) :
    ScriptReading α :=
  match tokens with
  | ⟨.fault fault, line⟩ :: _ => .error (fault, line)
  | ⟨_, line⟩ :: _ => .error (.unexpected (tokenName couldBeReserved tokens) expected, line)
  | [] => .error (.unexpected "end of file" expected, 1)

def expect (text : String) (tokens : List Token) : ScriptReading (List Token) :=
  if leading? tokens = some text then .ok (tokens.drop 1)
  else complainOf tokens true (some (quotedSymbol text))

def readOneRedirection (tokens : List Token) : ScriptReading (Option (Redirection × List Token)) :=
  match tokens with
  | ⟨.redirect stream symbol, _⟩ :: ⟨.word target, _⟩ :: rest =>
    .ok (some (⟨stream, symbol, target⟩, rest))
  | ⟨.redirect _ _, _⟩ :: rest => complainOf rest false none
  | ⟨.enclosed stream text, _⟩ :: rest => .ok (some (⟨stream, "<<", text⟩, rest))
  | _ => .ok none

def readRedirections : Nat → List Token → ScriptReading (List Redirection × List Token)
  | 0, tokens => .ok ([], tokens)
  | fuel + 1, tokens => do
    match ← readOneRedirection tokens with
    | some (redirection, rest) =>
      let (others, after) ← readRedirections fuel rest
      .ok (redirection :: others, after)
    | none => .ok ([], tokens)

def readSimple : Nat → List Token → ScriptReading (List Word × List Redirection × List Token)
  | 0, tokens => .ok ([], [], tokens)
  | fuel + 1, tokens => do
    match ← readOneRedirection tokens with
    | some (redirection, rest) =>
      let (words, redirections, after) ← readSimple fuel rest
      .ok (words, redirection :: redirections, after)
    | none =>
      match tokens with
      | ⟨.word word, _⟩ :: rest =>
        let (words, redirections, after) ← readSimple fuel rest
        .ok (word :: words, redirections, after)
      | _ => .ok ([], [], tokens)

def readWords : List Token → List Word × List Token
  | ⟨.word word, _⟩ :: rest =>
    let (words, after) := readWords rest
    (word :: words, after)
  | tokens => ([], tokens)

def isEnding (tokens : List Token) : Bool :=
  match tokens with
  | ⟨.ending, _⟩ :: _ | [] => true
  | _ => false

def readPatterns : Nat → List Token → ScriptReading (List Word × List Token)
  | 0, tokens => complainOf tokens true none
  | fuel + 1, tokens =>
    match tokens with
    | ⟨.word word, _⟩ :: rest =>
      if leading? rest = some "|" then do
        let (others, after) ← readPatterns fuel (rest.drop 1)
        .ok (word :: others, after)
      else .ok ([word], rest)
    | tokens =>
      complainOf (if isEnding tokens then tokens else tokens.drop 1) true (some (quotedSymbol ")"))

/-- What can be read at a place of a script. A line is a list that ends with its line; other lists
go on over lines, and some may be empty. A pipeline is negated or not before its stages. A branch
is what follows `if` or `elif`. -/
inductive Level where
  | line
  | list (mayBeEmpty : Bool)
  | condition
  | conditionAfter (left : Script)
  | pipeline
  | stages
  | command
  | branch
  | arms
  deriving DecidableEq, Repr

def closers : List String :=
  ["then", "elif", "else", "fi", "do", "done", "\x7d", ")", ";;", "esac"]

def specialNames : List String := [".", ":", "break", "continue", "eval", "exec", "exit", "export",
  "readonly", "return", "set", "shift", "trap", "unset"]

def Script.followedBy (first second : Script) : Script :=
  match first, second with
  | .nothing, second => second
  | first, .nothing => first
  | first, second => .sequence first second

def lineOf (tokens : List Token) : Nat :=
  match tokens with
  | ⟨_, line⟩ :: _ => line
  | [] => 1

def read : Nat → Level → List Token → ScriptReading (Script × List Token)
  | 0, _, tokens => complainOf tokens true none
  | fuel + 1, .line, tokens => do
    let (first, after) ← read fuel .condition tokens
    let goOn (first : Script) (rest : List Token) : ScriptReading (Script × List Token) := do
      if leading? rest = some "\n" || isEnding rest then .ok (first, rest)
      else
        let (others, after) ← read fuel .line rest
        .ok (first.followedBy others, after)
    match leading? after with
    | some ";" => goOn first (after.drop 1)
    | some "&" => goOn (.background first) (after.drop 1)
    | some "\n" => .ok (first, after)
    | _ => if isEnding after then .ok (first, after) else complainOf after true none
  | fuel + 1, .list mayBeEmpty, tokens => do
    let tokens := skipNewlines tokens
    if mayBeEmpty && (leading? tokens).any closers.contains || isEnding tokens then
      .ok (.nothing, tokens)
    else
      let (first, after) ← read fuel .condition tokens
      let goOn (first : Script) (rest : List Token) : ScriptReading (Script × List Token) := do
        let (others, after) ← read fuel (.list true) rest
        .ok (first.followedBy others, after)
      match leading? after with
      | some ";" | some "\n" => goOn first (after.drop 1)
      | some "&" => goOn (.background first) (after.drop 1)
      | _ => .ok (first, after)
  | fuel + 1, .condition, tokens => do
    let (first, after) ← read fuel .pipeline tokens
    read fuel (.conditionAfter first) after
  | fuel + 1, .conditionAfter left, tokens => do
    match leading? tokens with
    | some "&&" =>
      let (right, after) ← read fuel .pipeline (skipNewlines (tokens.drop 1))
      read fuel (.conditionAfter (.both left right)) after
    | some "||" =>
      let (right, after) ← read fuel .pipeline (skipNewlines (tokens.drop 1))
      read fuel (.conditionAfter (.either left right)) after
    | _ => .ok (left, tokens)
  | fuel + 1, .pipeline, tokens => do
    if leading? tokens = some "!" then
      let (script, after) ← read fuel .stages (tokens.drop 1)
      .ok (.negated script, after)
    else read fuel .stages tokens
  | fuel + 1, .stages, tokens => do
    let (first, after) ← read fuel .command tokens
    match leading? after with
    | some "|" =>
      let (second, after) ← read fuel .stages (skipNewlines (after.drop 1))
      .ok (.pipe first second, after)
    | _ => .ok (first, after)
  | fuel + 1, .branch, tokens => do
    let (condition, after) ← read fuel (.list false) tokens
    let (yes, after) ← read fuel (.list false) (← expect "then" after)
    match leading? after with
    | some "elif" =>
      let (no, after) ← read fuel .branch (after.drop 1)
      .ok (.branch condition yes no, after)
    | some "else" =>
      let (no, after) ← read fuel (.list false) (after.drop 1)
      .ok (.branch condition yes no, ← expect "fi" after)
    | _ => .ok (.branch condition yes .nothing, ← expect "fi" after)
  | fuel + 1, .arms, tokens => do
    let tokens := skipNewlines tokens
    if leading? tokens = some "esac" then .ok (.nothing, tokens.drop 1)
    else
      let tokens := if leading? tokens = some "(" then tokens.drop 1 else tokens
      let (patterns, after) ← readPatterns fuel tokens
      let (body, after) ← read fuel (.list true) (← expect ")" after)
      if leading? after = some "esac" then .ok (.arm patterns body .nothing, after.drop 1)
      else
        let (others, after) ← read fuel .arms (← expect ";;" after)
        .ok (.arm patterns body others, after)
  | fuel + 1, .command, tokens => do
    let inner (tokens : List Token) := read fuel (.list false) tokens
    let close (script : Script) (after : List Token) : ScriptReading (Script × List Token) := do
      let (redirections, after) ← readRedirections fuel after
      if redirections.isEmpty then .ok (script, after)
      else .ok (.group false script redirections, after)
    match leading? tokens with
    | some "if" => do
      let (script, after) ← read fuel .branch (tokens.drop 1)
      close script after
    | some "while" | some "until" => do
      let (condition, after) ← inner (tokens.drop 1)
      let (body, after) ← inner (← expect "do" after)
      close (.loop (leading? tokens = some "while") condition body) (← expect "done" after)
    | some "for" => do
      match tokens.drop 1 with
      | ⟨.word name, _⟩ :: rest =>
        match (bareText? name).filter isName with
        | none => .error (.badLoopVariable, lineOf tokens)
        | some name =>
          let rest' := skipNewlines rest
          let (words, after) ←
            if leading? rest' = some "in" then do
              let (words, after) := readWords (rest'.drop 1)
              if leading? after = some ";" || leading? after = some "\n" then
                .ok (words, after.drop 1)
              else complainOf after false none
            else
              .ok ([[⟨.parameter "@" "" "", true⟩]],
                if leading? rest = some ";" then rest.drop 1 else rest)
          let (body, after) ← inner (← expect "do" (skipNewlines after))
          close (.each (lineOf tokens) name words body) (← expect "done" after)
      | ⟨.fault fault, line⟩ :: _ => .error (fault, line)
      | _ => .error (.badLoopVariable, lineOf tokens)
    | some "case" => do
      match tokens.drop 1 with
      | ⟨.word subject, _⟩ :: rest =>
        let (arms, after) ← read fuel .arms (← expect "in" (skipNewlines rest))
        close (.choice (lineOf tokens) subject arms) after
      | rest => complainOf rest false (some "word")
    | some "\x7b" => do
      let (body, after) ← inner (tokens.drop 1)
      close (.group false body []) (← expect "\x7d" after)
    | some "(" => do
      let (body, after) ← inner (tokens.drop 1)
      let after ← expect ")" after
      let (redirections, after) ← readRedirections fuel after
      .ok (.group true body redirections, after)
    | some _ => complainOf tokens true none
    | none => do
      let (words, redirections, after) ← readSimple fuel tokens
      match words, redirections with
      | [name], [] =>
        if leading? after = some "(" && (assignment? name).isNone then
          let after ← expect ")" (after.drop 1)
          match (bareText? name).filter fun name => isName name && !specialNames.contains name with
          | none => .error (.badFunctionName, lineOf after)
          | some name =>
            let (body, after) ← read fuel .command (skipNewlines after)
            .ok (.function name body, after)
        else .ok (.simple (lineOf tokens) words redirections, after)
      | [], [] => complainOf tokens true none
      | _, _ => .ok (.simple (lineOf tokens) words redirections, after)

def readingFuel (tokens : List Token) : Nat := 8 * tokens.length + 16

def Redirection.words (redirections : List Redirection) : List Word :=
  redirections.map Redirection.target

def Script.words : Script → List Word
  | .nothing => []
  | .simple _ words redirections => words ++ Redirection.words redirections
  | .pipe left right | .both left right | .either left right | .sequence left right =>
    left.words ++ right.words
  | .background script | .negated script | .function _ script => script.words
  | .branch condition yes no => condition.words ++ yes.words ++ no.words
  | .loop _ condition body => condition.words ++ body.words
  | .each _ _ words body => words ++ body.words
  | .choice _ subject arms => subject :: arms.words
  | .arm patterns body others => patterns ++ body.words ++ others.words
  | .group _ body redirections => body.words ++ Redirection.words redirections

def checkWords : Nat → List Word → ScriptReading Unit
  | 0, _ => .ok ()
  | fuel + 1, words =>
    words.flatten.forM fun part =>
      match part.part with
      | .text _ => .ok ()
      | .parameter _ _ operand => checkWords fuel [operandWord part.isQuoted operand]
      | .arithmetic expression => checkWords fuel [expressionWord expression]
      | .output line isBackquoted script => do
        let tokens := tokensFrom line (if isBackquoted then script else script ++ ")")
        let (script, after) ← read (readingFuel tokens) (.list true) tokens
        if !isBackquoted then discard (expect ")" after)
        checkWords fuel script.words

def checkDepth : Nat := 100

def nextLine (tokens : List Token) : ScriptReading (Option (Script × List Token)) :=
  let tokens := skipNewlines tokens
  if isEnding tokens then .ok none
  else do
    let (script, after) ← read (readingFuel tokens) .line tokens
    checkWords checkDepth script.words
    .ok (some (script, after))

end BuildWatch.Simulation.Shell

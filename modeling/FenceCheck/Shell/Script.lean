import FenceCheck.Shell.Token

/-!
The structure of a shell script: commands joined by marks and by the words that open and close
compound commands. A script is read line by line, so that a fault counts only after the lines before
it were run.
-/

namespace FenceCheck

namespace Shell

structure Redirect where
  stream : Nat
  direction : Direction
  target : List Piece
  deriving DecidableEq, Repr

inductive Script where
  | nothing
  /-- A simple command, with the line on which its first word ends. -/
  | simple (words : List (List Piece)) (redirects : List Redirect) (line : Nat)
  | sequence (first second : Script)
  | background (script : Script)
  | andThen (first second : Script)
  | orElse (first second : Script)
  | negate (script : Script)
  | pipe (source target : Script)
  | redirected (body : Script) (redirects : List Redirect) (line : Nat)
  /-- Commands that run in a shell of their own, whose streams are redirected. -/
  | apart (body : Script) (redirects : List Redirect) (line : Nat)
  | branch (condition body other : Script)
  | loop (condition : Script) (expected : Bool) (body : Script)
  | each (name : Text) (words : List (List Piece)) (body : Script) (line : Nat)
  /-- The body behind the first patterns of which one fits a word. -/
  | select (word : List Piece) (cases : List (List (List Piece) × Script)) (line : Nat)
  | define (name : Text) (body : Script)
  /-- A line that is no part of a script. -/
  | faulty (fault : ScriptFault) (line : Nat)
  deriving Repr, Inhabited

namespace Script

def isNothing : Script → Bool
  | nothing => true
  | sequence first second => first.isNothing && second.isNothing
  | _ => false

end Script

def plainWord? : List Piece → Option Text
  | [] => some []
  | .plain t :: rest => (plainWord? rest).map (t ++ ·)
  | _ => none

/-- The text before an equals sign, if it is a name, and the pieces behind it. -/
def assignment? : Text → List Piece → Option (Text × List Piece)
  | name, .plain [c] :: rest =>
      if c = .char '=' then if isName name then some (name, rest) else none
      else if isNameChar c then assignment? (name ++ [c]) rest
      else none
  | _, _ => none

def reservedWords : List Text :=
  ["!", "case", "do", "done", "elif", "else", "esac", "fi", "for", "if", "in", "then", "until",
   "while", "\x7b", "\x7d"].map Text.ofString

def closers : List Text :=
  ["then", "else", "elif", "fi", "do", "done", "esac", "\x7d"].map Text.ofString

/-- The commands after whose errors a shell does not go on. -/
def specialNames : List Text :=
  [":", ".", "break", "continue", "eval", "exec", "exit", "export", "local", "readonly", "return",
   "set", "shift", "times", "trap", "unset"].map Text.ofString

abbrev Lexemes := List Lexeme

namespace Lexemes

def token (lexemes : Lexemes) : Token := (lexemes.head?.map Lexeme.token).getD .ending

def line (lexemes : Lexemes) : Nat := (lexemes.head?.map Lexeme.line).getD 1

def word? (lexemes : Lexemes) : Option Text :=
  match lexemes.token with
  | .word pieces => plainWord? pieces
  | _ => none

def startsWith (lexemes : Lexemes) (word : String) : Bool :=
  lexemes.word? = some (Text.ofString word)

def isMark (lexemes : Lexemes) (mark : String) : Bool :=
  match lexemes.token with
  | .mark t => t = Text.ofString mark
  | _ => false

def isAtEnd (lexemes : Lexemes) : Bool :=
  match lexemes.token with
  | .ending => true
  | _ => false

def skipNewlines (lexemes : Lexemes) : Lexemes :=
  lexemes.dropWhile fun lexeme => lexeme.token = .mark "\n"

def isCloser (lexemes : Lexemes) : Bool :=
  lexemes.isMark ")" || lexemes.isMark ";;" || lexemes.word?.any closers.contains

def inQuotes (t : Text) : Text := Text.ofString "\x22" ++ t ++ Text.ofString "\x22"

def shown (lexemes : Lexemes) : Text :=
  match lexemes.token with
  | .ending | .fault _ => "end of file"
  | .redirect .. => "redirection"
  | .mark t => if t = Text.ofString "\n" then "newline" else inQuotes t
  | .word pieces =>
      match plainWord? pieces with
      | some t => if reservedWords.contains t then inQuotes t else "word"
      | none => "word"

end Lexemes

structure ScriptError where
  fault : ScriptFault
  line : Nat

def refuseFor (expected : Option Text) (lexemes : Lexemes) : Except ScriptError α :=
  match lexemes.token with
  | .fault fault => .error ⟨fault, lexemes.line⟩
  | _ => .error ⟨.unexpected lexemes.shown expected, lexemes.line⟩

def refuse (lexemes : Lexemes) : Except ScriptError α := refuseFor none lexemes

abbrev Parsed := Except ScriptError (Script × Lexemes)

def expect (word : String) (lexemes : Lexemes) : Except ScriptError Lexemes :=
  if lexemes.startsWith word then .ok (lexemes.drop 1)
  else refuseFor (some (Lexemes.inQuotes (Text.ofString word))) lexemes

/-- The tokens behind a mark that has to come where words have no meaning of their own. -/
def expectMarkOnly (mark : String) (lexemes : Lexemes) : Except ScriptError Lexemes :=
  if lexemes.isMark mark then .ok (lexemes.drop 1)
  else
    match lexemes.token with
    | .word _ =>
        .error ⟨.unexpected "word" (some (Lexemes.inQuotes (Text.ofString mark))), lexemes.line⟩
    | _ => refuseFor (some (Lexemes.inQuotes (Text.ofString mark))) lexemes

def expectMark (mark : String) (lexemes : Lexemes) : Except ScriptError Lexemes :=
  if lexemes.isMark mark then .ok (lexemes.drop 1)
  else refuseFor (some (Lexemes.inQuotes (Text.ofString mark))) lexemes

def simpleParts : Lexemes → Except ScriptError (List (List Piece) × List Redirect × Lexemes)
  | ⟨.word pieces, _⟩ :: rest => do
      let (words, redirects, rest) ← simpleParts rest
      return (pieces :: words, redirects, rest)
  | ⟨.redirect stream direction, _⟩ :: ⟨.word target, _⟩ :: rest => do
      let (words, redirects, rest) ← simpleParts rest
      return (words, ⟨stream, direction, target⟩ :: redirects, rest)
  | ⟨.redirect .., _⟩ :: rest => refuse rest
  | rest => .ok ([], [], rest)

def redirectsOf : Lexemes → Except ScriptError (List Redirect × Lexemes)
  | ⟨.redirect stream direction, _⟩ :: ⟨.word target, _⟩ :: rest => do
      let (redirects, rest) ← redirectsOf rest
      return (⟨stream, direction, target⟩ :: redirects, rest)
  | ⟨.redirect .., _⟩ :: rest => refuse rest
  | rest => .ok ([], rest)

def patternsOf : Lexemes → Except ScriptError (List (List Piece) × Lexemes)
  | ⟨.word pattern, _⟩ :: rest =>
      if Lexemes.isMark rest "|" then do
        let (patterns, rest) ← patternsOf (rest.drop 1)
        return (pattern :: patterns, rest)
      else do return ([pattern], ← expectMarkOnly ")" rest)
  | lexemes => refuseFor (some (Lexemes.inQuotes ")")) lexemes
  termination_by lexemes => lexemes.length

def simple (lexemes : Lexemes) : Parsed := do
  let (words, redirects, rest) ← simpleParts lexemes
  if words.isEmpty && redirects.isEmpty then refuse lexemes
  else return (.simple words redirects lexemes.line, rest)

/-- A compound command with the redirections behind it. Those behind a shell of its own take the place
of any that it has, as happens where braces stand around such a shell alone. -/
def withRedirects (line : Nat) : Script × Lexemes → Parsed
  | (body, rest) => do
      let (redirects, rest) ← redirectsOf rest
      if redirects.isEmpty then return (body, rest)
      match body with
      | .apart body _ line => return (.apart body redirects line, rest)
      | body => return (.redirected body redirects line, rest)

mutual

/-- Commands up to what ends the list they stand in. -/
def list : Nat → Bool → Lexemes → Parsed
  | 0, _, lexemes => .ok (.nothing, lexemes)
  | fuel + 1, mayBeEmpty, lexemes => do
      let lexemes := lexemes.skipNewlines
      if lexemes.isAtEnd || (mayBeEmpty && lexemes.isCloser) then return (.nothing, lexemes)
      let (first, rest) ← chain fuel lexemes
      if rest.isMark "&" then
        let (second, rest) ← list fuel true (rest.drop 1)
        return (.sequence (.background first) second, rest)
      else if rest.isMark ";" || rest.isMark "\n" then
        let (second, rest) ← list fuel true (rest.drop 1)
        return (if second.isNothing then first else .sequence first second, rest)
      else return (first, rest)

def chain : Nat → Lexemes → Parsed
  | 0, lexemes => .ok (.nothing, lexemes)
  | fuel + 1, lexemes => do
      let (first, rest) ← pipeline fuel lexemes
      chained fuel first rest

def chained : Nat → Script → Lexemes → Parsed
  | 0, first, lexemes => .ok (first, lexemes)
  | fuel + 1, first, lexemes => do
      if lexemes.isMark "&&" then
        let (second, rest) ← pipeline fuel (Lexemes.skipNewlines (lexemes.drop 1))
        chained fuel (.andThen first second) rest
      else if lexemes.isMark "||" then
        let (second, rest) ← pipeline fuel (Lexemes.skipNewlines (lexemes.drop 1))
        chained fuel (.orElse first second) rest
      else return (first, lexemes)

/-- Commands of which each reads what the one before it prints. -/
def pipeline : Nat → Lexemes → Parsed
  | 0, lexemes => .ok (.nothing, lexemes)
  | fuel + 1, lexemes => do
      if lexemes.startsWith "!" then
        let (script, rest) ← piped fuel (lexemes.drop 1)
        return (.negate script, rest)
      else piped fuel lexemes

def piped : Nat → Lexemes → Parsed
  | 0, lexemes => .ok (.nothing, lexemes)
  | fuel + 1, lexemes => do
      let (first, rest) ← command fuel lexemes
      if rest.isMark "|" then
        let (second, rest) ← piped fuel (Lexemes.skipNewlines (rest.drop 1))
        return (.pipe first second, rest)
      else return (first, rest)

def command : Nat → Lexemes → Parsed
  | 0, lexemes => .ok (.nothing, lexemes)
  | fuel + 1, lexemes => do
      let line := lexemes.line
      let behind : Lexemes := lexemes.drop 1
      if lexemes.isMark "(" then
        let (body, rest) ← list fuel false behind
        withRedirects line (.apart body [] line, ← expectMark ")" rest)
      else if lexemes.startsWith "\x7b" then
        let (body, rest) ← list fuel false behind
        withRedirects line (body, ← expect "\x7d" rest)
      else if lexemes.startsWith "if" then withRedirects line (← condition fuel behind)
      else if lexemes.startsWith "while" then withRedirects line (← loopOf fuel true behind)
      else if lexemes.startsWith "until" then withRedirects line (← loopOf fuel false behind)
      else if lexemes.startsWith "for" then withRedirects line (← eachOf fuel line behind)
      else if lexemes.startsWith "case" then withRedirects line (← selection fuel line behind)
      else if lexemes.word?.any reservedWords.contains then refuse lexemes
      else
        match lexemes with
        | ⟨.word name, _⟩ :: ⟨.mark mark, _⟩ :: rest =>
            if mark = Text.ofString "(" && (assignment? [] name).isNone then
              definition fuel name rest
            else simple lexemes
        | lexemes => simple lexemes

def definition : Nat → List Piece → Lexemes → Parsed
  | 0, _, lexemes => .ok (.nothing, lexemes)
  | fuel + 1, name, lexemes => do
      let rest ← expectMarkOnly ")" lexemes
      match plainWord? name with
      | some name =>
          if !isName name || specialNames.contains name then throw ⟨.badFunctionName, lexemes.line⟩
          let (body, rest) ← command fuel rest.skipNewlines
          return (.define name body, rest)
      | none => throw ⟨.badFunctionName, lexemes.line⟩

def condition : Nat → Lexemes → Parsed
  | 0, lexemes => .ok (.nothing, lexemes)
  | fuel + 1, lexemes => do
      let (test, rest) ← list fuel false lexemes
      let (body, rest) ← list fuel false (← expect "then" rest)
      if rest.startsWith "elif" then
        let (other, rest) ← condition fuel (rest.drop 1)
        return (.branch test body other, rest)
      else if rest.startsWith "else" then
        let (other, rest) ← list fuel false (rest.drop 1)
        return (.branch test body other, ← expect "fi" rest)
      else return (.branch test body .nothing, ← expect "fi" rest)

def loopOf : Nat → Bool → Lexemes → Parsed
  | 0, _, lexemes => .ok (.nothing, lexemes)
  | fuel + 1, expected, lexemes => do
      let (test, rest) ← list fuel false lexemes
      let (body, rest) ← list fuel false (← expect "do" rest)
      return (.loop test expected body, ← expect "done" rest)

/-- What follows `for`. Without values it goes through the arguments. -/
def eachOf : Nat → Nat → Lexemes → Parsed
  | 0, _, lexemes => .ok (.nothing, lexemes)
  | fuel + 1, line, lexemes => do
      match lexemes.word? with
      | none => throw ⟨.badLoopVariable, lexemes.line⟩
      | some name =>
          if !isName name then throw ⟨.badLoopVariable, lexemes.line⟩
          let rest := Lexemes.skipNewlines (lexemes.drop 1)
          let (words, rest) ←
            if rest.startsWith "in" then
              let (words, redirects, rest) ← simpleParts (rest.drop 1)
              if redirects.isEmpty && (rest.isMark ";" || rest.isMark "\n") then
                pure (words, rest.drop 1)
              else refuse rest
            -- Only the parameter, without the empty piece that would make a word of no arguments.
            else pure ([allArguments.take 1], if rest.isMark ";" then rest.drop 1 else rest)
          let (body, rest) ← list fuel false (← expect "do" (Lexemes.skipNewlines rest))
          return (.each name words body line, ← expect "done" rest)

def selection : Nat → Nat → Lexemes → Parsed
  | 0, _, lexemes => .ok (.nothing, lexemes)
  | fuel + 1, line, lexemes => do
      match lexemes with
      | ⟨.word word, _⟩ :: rest =>
          let (cases, rest) ← casesOf fuel (← expect "in" (Lexemes.skipNewlines rest))
          return (.select word cases line, rest)
      | lexemes => refuseFor (some "word") lexemes

/-- The cases up to the word that closes them, which is read. -/
def casesOf : Nat → Lexemes →
    Except ScriptError (List (List (List Piece) × Script) × Lexemes)
  | 0, lexemes => .ok ([], lexemes)
  | fuel + 1, lexemes => do
      let lexemes := lexemes.skipNewlines
      if lexemes.startsWith "esac" then return ([], lexemes.drop 1)
      let (patterns, rest) ← patternsOf (if lexemes.isMark "(" then lexemes.drop 1 else lexemes)
      let (body, rest) ← list fuel true rest
      let rest := rest.skipNewlines
      if rest.startsWith "esac" then return ([(patterns, body)], rest.drop 1)
      let (more, rest) ← casesOf fuel (← expectMark ";;" rest)
      return ((patterns, body) :: more, rest)

def commandLine : Nat → Lexemes → Parsed
  | 0, lexemes => .ok (.nothing, lexemes)
  | fuel + 1, lexemes => do
      if lexemes.isMark "\n" then return (.nothing, lexemes.drop 1)
      if lexemes.isAtEnd then return (.nothing, lexemes)
      let (first, rest) ← chain fuel lexemes
      if rest.isMark "&" then
        let (second, rest) ← commandLine fuel (rest.drop 1)
        return (.sequence (.background first) second, rest)
      else if rest.isMark ";" then
        let (second, rest) ← commandLine fuel (rest.drop 1)
        return (.sequence first second, rest)
      else if rest.isMark "\n" then return (first, rest.drop 1)
      else if rest.isAtEnd then return (first, rest)
      else refuse rest

end

/-- The lines of a script, up to one that is no part of a script. -/
def commandLines (fuel : Nat) : Nat → Lexemes → Script
  | 0, _ => .nothing
  | count + 1, lexemes =>
      if lexemes.isAtEnd then .nothing
      else
        match commandLine fuel lexemes with
        | .ok (first, rest) => .sequence first (commandLines fuel count rest)
        | .error error => .faulty error.fault error.line

/-- The steps that reading some tokens takes at most. -/
def stepsFor (lexemes : Lexemes) : Nat := 8 * lexemes.length + 16

/-- The fault of a script in parentheses, if it has one. `closing` is what is behind it. -/
def faultInside? (inside : Lexemes) (closing : Token) : Option ScriptError :=
  let line := (inside.getLast?.map Lexeme.line).getD 1
  let lexemes := inside.dropLast ++
    match inside.getLast? with
    | some ⟨.fault fault, line⟩ => [⟨.fault fault, line⟩]
    | _ => [⟨closing, line⟩, ⟨.ending, line⟩]
  match do expectMark ")" (← list (stepsFor lexemes) true lexemes).2 with
  | .ok _ => none
  | .error error => some error

/-- Tokens up to the first word with a script in it that is faulty, which ends in that fault. Scripts
are looked into up to a depth. -/
def checked : Nat → List Lexeme → List Lexeme
  | 0, lexemes => lexemes
  | _, [] => []
  | depth + 1, lexeme :: rest =>
      let fault? : Option ScriptError :=
        match lexeme.token with
        | .word pieces => pieces.findSome? fun
            | .output script line _ =>
                faultInside? (checked depth (lexemes (script.length + 1) line 0 script)) (.mark ")")
            | _ => none
        | .fault (.unclosed script) =>
            let line := lexeme.line - script.count (.char '\n')
            faultInside? (checked depth (lexemes (script.length + 1) line 0 script)) .ending
        | _ => none
      match fault? with
      | some error => [⟨.fault error.fault, error.line⟩]
      | none => lexeme :: checked (depth + 1) rest
  termination_by depth lexemes => (depth, lexemes.length)

/-- The deepest nesting of scripts in words that is looked into before a script is run. -/
def depthLimit : Nat := 16

def Script.ofText (line : Nat) (t : Text) : Script :=
  let lexemes := checked depthLimit (lexemes (t.length + 1) line 0 t)
  commandLines (stepsFor lexemes) lexemes.length lexemes

end Shell

end FenceCheck

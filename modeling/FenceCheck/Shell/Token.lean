import FenceCheck.Text.CodePoint

/-!
Words and marks of a shell script, with the lines on which they end. A word is a list of pieces: plain
text, and places where the value of a parameter or the output of a script is put in. Quotes decide
whether such a value is split. A script that goes wrong ends in the fault.
-/

namespace FenceCheck

namespace Shell

inductive Piece where
  | plain (t : Text)
  | quoted (t : Text)
  /-- A parameter; `rule` says when `other` stands for it, or which part of it is cut off. -/
  | parameter (name rule other : Text) (inQuotes : Bool)
  | length (name : Text) (inQuotes : Bool)
  | arithmetic (expression : Text) (inQuotes : Bool)
  /-- What a script prints, whose first line has a number. -/
  | output (script : Text) (line : Nat) (inQuotes : Bool)
  | unknown
  deriving DecidableEq, Repr

inductive Direction where
  | input
  | output
  | append
  | duplicate
  | text
  deriving DecidableEq, Repr

inductive ScriptFault where
  | unterminatedQuote
  | unterminatedScript
  | missingBrace
  | missingParentheses
  /-- Nothing closes a script in parentheses, up to the end of the text. -/
  | unclosed (script : Text)
  | badLoopVariable
  | badFunctionName
  /-- Something that cannot stand where it does, and what would have to stand there. -/
  | unexpected (shown : Text) (expected : Option Text)
  deriving DecidableEq, Repr

namespace ScriptFault

/-- The most characters that are said about something unexpected. -/
def messageLimit : Nat := 63

def description : ScriptFault → Text
  | unterminatedQuote => "Unterminated quoted string"
  | unterminatedScript => "EOF in backquote substitution"
  | missingBrace => "Missing '\x7d'"
  | missingParentheses => "Missing '))'"
  | unclosed _ => "end of file unexpected (expecting \x22)\x22)"
  | badLoopVariable => "Bad for loop variable"
  | badFunctionName => "Bad function name"
  | unexpected shown none => (shown ++ Text.ofString " unexpected").take messageLimit
  | unexpected shown (some expected) =>
      (shown ++ Text.ofString " unexpected (expecting " ++ expected ++
        Text.ofString ")").take messageLimit

def message (fault : ScriptFault) : Text := Text.ofString "Syntax error: " ++ fault.description

end ScriptFault

inductive Token where
  | word (pieces : List Piece)
  | mark (t : Text)
  | redirect (stream : Nat) (direction : Direction)
  | ending
  | fault (fault : ScriptFault)
  deriving DecidableEq, Repr

/-- A token with the line on which it ends. -/
structure Lexeme where
  token : Token
  line : Nat
  deriving DecidableEq, Repr

def isNameStart (c : CodePoint) : Bool :=
  let n := c.val
  (0x41 ≤ n && n ≤ 0x5A) || (0x61 ≤ n && n ≤ 0x7A) || n == 0x5F

def isDigit (c : CodePoint) : Bool := 0x30 ≤ c.val && c.val ≤ 0x39

def isNameChar (c : CodePoint) : Bool := isNameStart c || isDigit c

def isName (t : Text) : Bool :=
  match t with
  | [] => false
  | c :: rest => isNameStart c && rest.all isNameChar

def isOneOf (chars : String) (c : CodePoint) : Bool := c ∈ Text.ofString chars

/-- What a text is inside of, up to the mark that closes it. -/
inductive Frame where
  /-- Parentheses around a script, in which some cases are open. -/
  | script (cases : Nat)
  | braces (inQuotes : Bool)
  | doubleQuotes
  | singleQuotes
  | backQuotes
  | comment
  deriving DecidableEq, Repr

/-- What opens inside of something: quotes of some kinds, and scripts and parameters behind a dollar
sign, with the number of characters behind the first one that belong to the sign. -/
def opened? (singles : Bool) (c : CodePoint) (rest : Text) : Option (Frame × Nat) :=
  if c = .char '\x22' then some (.doubleQuotes, 0)
  else if c = .char '\x60' then some (.backQuotes, 0)
  else if c = .char '\x27' && singles then some (.singleQuotes, 0)
  else if c = .char '$' && Text.startsWith rest "(" then some (.script 0, 1)
  else if c = .char '$' && Text.startsWith rest "\x7b" then some (.braces (!singles), 1)
  else none

/-- The text behind the mark that closes the last of several frames, the inmost first. `isStart` says
whether a word may begin. -/
def behindFrames : Nat → List Frame → Bool → Text → Option Text
  | 0, _, _, _ => none
  | _, [], _, t => some t
  | _, _, _, [] => none
  | fuel + 1, frame :: outer, isStart, c :: rest =>
      let pop : Option Text := behindFrames fuel outer false rest
      let inside (singles : Bool) (start : Bool) : Option Text :=
        match opened? singles c rest with
        | some (inner, more) => behindFrames fuel (inner :: frame :: outer) true (rest.drop more)
        | none =>
            if c = .char '\\' then behindFrames fuel (frame :: outer) false (rest.drop 1)
            else behindFrames fuel (frame :: outer) start rest
      match frame with
      | .singleQuotes =>
          if c = .char '\x27' then pop else behindFrames fuel (frame :: outer) false rest
      | .comment => behindFrames fuel (if c = .char '\n' then outer else frame :: outer) true rest
      | .backQuotes =>
          if c = .char '\x60' then pop
          else behindFrames fuel (frame :: outer) false
            (if c = .char '\\' then rest.drop 1 else rest)
      | .doubleQuotes => if c = .char '\x22' then pop else inside false false
      | .braces inQuotes => if c = .char '\x7d' then pop else inside (!inQuotes) false
      | .script cases =>
          let isWord (word : String) : Bool :=
            isStart && Text.startsWith (c :: rest) word &&
              !((rest.drop (word.length - 1)).head?.any isNameChar)
          if c = .char '#' && isStart then behindFrames fuel (.comment :: frame :: outer) true rest
          else if c = .char '(' then behindFrames fuel (.script 0 :: frame :: outer) true rest
          -- A closing parenthesis behind a pattern of a case does not end the script.
          else if c = .char ')' && cases = 0 then pop
          else if isWord "case" then behindFrames fuel (.script (cases + 1) :: outer) false rest
          else if isWord "esac" then behindFrames fuel (.script (cases - 1) :: outer) false rest
          else inside true (isOneOf " \t\n;&|()" c)

def upToClosing (frame : Frame) (t : Text) : Option (Text × Text) :=
  (behindFrames (t.length + 1) [frame] true t).map fun behind =>
    (t.take (t.length - behind.length - 1), behind)

/-- The name of a parameter at the start of a text: letters and digits, or one mark. -/
def parameterName (t : Text) : Text × Text :=
  match t with
  | c :: rest =>
      if isNameStart c then (t.takeWhile isNameChar, t.dropWhile isNameChar)
      else if isDigit c || isOneOf "@*#?$!-" c then ([c], rest)
      else ([], t)
  | [] => ([], [])

def ruleOf (t : Text) : Text :=
  let start := t.head?.toList
  if Text.startsWith t ":" then t.take 2
  else if Text.startsWith t "%" || Text.startsWith t "#" then
    if t.take 2 = start ++ start then t.take 2 else start
  else start

def rules : List Text :=
  ["-", "=", "?", "+", ":-", ":=", ":?", ":+", "%", "%%", "#", "##"].map Text.ofString

def bracedParameter (inside : Text) (inQuotes : Bool) : Piece :=
  let named (t : Text) : Text × Text :=
    if t.head?.any isDigit then (t.takeWhile isDigit, t.dropWhile isDigit) else parameterName t
  let withRule : Piece :=
    let (name, rest) := named inside
    let rule := ruleOf rest
    if name.isEmpty || !(rest.isEmpty || rules.contains rule) then .unknown
    else .parameter name rule (rest.drop rule.length) inQuotes
  match inside with
  | .char '#' :: name@(_ :: _) =>
      if (named name).2.isEmpty && !(named name).1.isEmpty then .length name inQuotes else withRule
  | _ => withRule

def dollar (line : Nat) (t : Text) (inQuotes : Bool) : Except ScriptFault (Piece × Text) :=
  match t with
  | .char '\x7b' :: rest =>
      match upToClosing (.braces inQuotes) rest with
      | some (inside, behind) => .ok (bracedParameter inside inQuotes, behind)
      | none => .error .missingBrace
  | .char '(' :: .char '(' :: rest =>
      match upToClosing (.script 0) rest with
      | some (inside, .char ')' :: behind) => .ok (.arithmetic inside inQuotes, behind)
      | _ => .error .missingParentheses
  | .char '(' :: rest =>
      match upToClosing (.script 0) rest with
      | some (inside, behind) => .ok (.output inside line inQuotes, behind)
      | none => .error (.unclosed rest)
  | t =>
      match parameterName t with
      | ([], behind) => .ok (if inQuotes then .quoted "$" else .plain "$", behind)
      | (name, behind) => .ok (.parameter name [] [] inQuotes, behind)

/-- The script between back quotes, in which backslashes hide what would end it, and the text behind
it. -/
def backQuoted (inQuotes : Bool) : Text → Except ScriptFault (Text × Text)
  | [] => .error .unterminatedScript
  | .char '\x60' :: rest => .ok ([], rest)
  | .char '\\' :: c :: rest =>
      let kept : Text :=
        if isOneOf "\\\x60$" c || (inQuotes && c = .char '\x22') then [c]
        else if c = .char '\n' then [] else [.char '\\', c]
      (backQuoted inQuotes rest).map fun (t, r) => (kept ++ t, r)
  | c :: rest => (backQuoted inQuotes rest).map fun (t, r) => (c :: t, r)

/-- The line behind a part of a text, whose first line has a number. -/
def lineBehind (line : Nat) (t behind : Text) : Nat :=
  line + (t.take (t.length - behind.length)).count (.char '\n')

/-- The pieces between double quotes, up to a closing quote that has to come if `closed`. -/
def inDoubleQuotes (closed : Bool) :
    Nat → Nat → Text → Except ScriptFault (List Piece × Text)
  | 0, _, _ => .error .unterminatedQuote
  | _, _, [] => if closed then .error .unterminatedQuote else .ok ([], [])
  | fuel + 1, line, .char '\\' :: c :: rest =>
      let kept : Text :=
        if isOneOf "$\x60\\" c || (closed && c = .char '\x22') then [c]
        else if c = .char '\n' then [] else [.char '\\', c]
      (inDoubleQuotes closed fuel (line + [c].count (.char '\n')) rest).map fun (pieces, r) =>
        (.quoted kept :: pieces, r)
  | fuel + 1, line, .char '$' :: rest => do
      let (piece, behind) ← dollar line rest true
      let (pieces, r) ← inDoubleQuotes closed fuel (lineBehind line rest behind) behind
      return (piece :: pieces, r)
  | fuel + 1, line, .char '\x60' :: rest => do
      let (script, behind) ← backQuoted true rest
      let (pieces, r) ← inDoubleQuotes closed fuel (lineBehind line rest behind) behind
      return (.output script 1 true :: pieces, r)
  | fuel + 1, line, c :: rest =>
      if c = .char '\x22' ∧ closed then .ok ([.quoted []], rest)
      else
        (inDoubleQuotes closed fuel (line + [c].count (.char '\n')) rest).map fun (pieces, r) =>
          (.quoted [c] :: pieces, r)

def allArguments : List Piece := [.parameter "@" [] [] true, .quoted []]

/-- The pieces of a word, and the text behind it. Blanks and marks end a word that is `closed`. -/
def wordPieces (closed : Bool) : Nat → Nat → Text → Except ScriptFault (List Piece × Text)
  | 0, _, t => .ok ([], t)
  | _, _, [] => .ok ([], [])
  | fuel + 1, line, .char '\\' :: c :: rest =>
      (wordPieces closed fuel (line + [c].count (.char '\n')) rest).map fun (pieces, r) =>
        ((if c = .char '\n' then .plain [] else .quoted [c]) :: pieces, r)
  | fuel + 1, line, .char '\x27' :: rest =>
      match rest.dropWhile (· ≠ .char '\x27') with
      | [] => .error .unterminatedQuote
      | _ :: behind =>
          (wordPieces closed fuel (lineBehind line rest behind) behind).map fun (pieces, r) =>
            (.quoted (rest.takeWhile (· ≠ .char '\x27')) :: pieces, r)
  | fuel + 1, line, .char '\x22' :: rest => do
      let (inside, behind) ← inDoubleQuotes true (rest.length + 1) line rest
      -- Quotes around nothing are a word, but not around all of no arguments.
      let inside := if inside = allArguments then inside.dropLast else inside
      let (pieces, r) ← wordPieces closed fuel (lineBehind line rest behind) behind
      return (inside ++ pieces, r)
  | fuel + 1, line, .char '$' :: rest => do
      let (piece, behind) ← dollar line rest false
      let (pieces, r) ← wordPieces closed fuel (lineBehind line rest behind) behind
      return (piece :: pieces, r)
  | fuel + 1, line, .char '\x60' :: rest => do
      let (script, behind) ← backQuoted false rest
      let (pieces, r) ← wordPieces closed fuel (lineBehind line rest behind) behind
      return (.output script 1 false :: pieces, r)
  | fuel + 1, line, c :: rest =>
      if closed && isOneOf " \t\n;&|<>()" c then .ok ([], c :: rest)
      else
        (wordPieces closed fuel (line + [c].count (.char '\n')) rest).map fun (pieces, r) =>
          (.plain [c] :: pieces, r)

/-- The marks that stand for themselves, longer ones first. -/
def marks : List Text := ["&&", "||", ";;", ";", "&", "|", "(", ")", "\n"]

def redirections : List (Text × Direction) :=
  [(">>", .append), (">&", .duplicate), ("<&", .duplicate), (">|", .output), (">", .output),
   ("<", .input)]

/-- A redirection at the start of a text, after the digit of a stream or none. -/
def redirection? (t : Text) : Option (Token × Text) :=
  let digits := (t.take 1).takeWhile isDigit
  let rest := t.drop digits.length
  (redirections.find? fun entry => Text.startsWith rest entry.1).map fun (sign, direction) =>
    let usual := if Text.startsWith sign "<" then 0 else 1
    let stream := match digits with
      | [] => usual
      | digits => digits.foldl (fun n c => 10 * n + (c.val - 0x30)) 0
    (.redirect stream direction, rest.drop sign.length)

/-- The lines up to one that closes a text, and the text behind that line. -/
def hereText (closing : Text) (stripTabs : Bool) : Nat → Text → Text × Text
  | 0, t => ([], t)
  | _, [] => ([], [])
  | fuel + 1, t =>
      let typed := t.takeWhile (· ≠ .char '\n')
      let behind := t.drop (typed.length + 1)
      let line := if stripTabs then typed.dropWhile (· = .char '\t') else typed
      if line = closing then ([], behind)
      else
        let (more, rest) := hereText closing stripTabs fuel behind
        (line ++ (if typed.length = t.length then more else .char '\n' :: more), rest)

/-- A text that is given in the script, after the sign for it: what is read, the script without it,
and how many lines were taken out. A closing word that is quoted in some way leaves the text as it
is. `first` is the line behind the one that is read. -/
def here (first : Nat) (t : Text) : Except ScriptFault (List Piece × Text × Nat) := do
  let stripTabs := Text.startsWith t "-"
  let (word, rest) ← wordPieces true (t.length + 1) first
    ((if stripTabs then t.drop 1 else t).dropWhile (isOneOf " \t"))
  let closing : Text := word.flatMap fun
    | .plain t | .quoted t => t
    | _ => []
  let isPlain := word.all fun
    | .plain _ => true
    | _ => false
  let line := rest.takeWhile (· ≠ .char '\n')
  let (body, behind) := hereText closing stripTabs (rest.length + 1) (rest.drop (line.length + 1))
  let pieces ← if isPlain then (inDoubleQuotes false (body.length + 1) first body).map (·.1)
    else pure [.quoted body]
  let left := if rest.length = line.length then line else line ++ .char '\n' :: behind
  return (pieces, left, rest.count (.char '\n') - left.count (.char '\n'))

/-- The tokens of a script. `line` is the line that is read, and `hidden` the number of lines that
were taken out below it. -/
def lexemes : Nat → Nat → Nat → Text → List Lexeme
  | 0, line, _, _ => [⟨.ending, line⟩]
  | _, line, _, [] => [⟨.ending, line⟩]
  | fuel + 1, line, hidden, c :: rest =>
      if isOneOf " \t" c then lexemes fuel line hidden rest
      else if c = .char '#' then lexemes fuel line hidden (rest.dropWhile (· ≠ .char '\n'))
      else if c = .char '\\' && rest.head? = some (.char '\n') then
        lexemes fuel (line + 1) hidden (rest.drop 1)
      else if c = .char '\n' then
        ⟨.mark "\n", line + hidden + 1⟩ :: lexemes fuel (line + hidden + 1) 0 rest
      else if Text.startsWith (c :: rest) "<<" then
        match here (line + hidden + 1) (rest.drop 1) with
        | .error fault => [⟨.fault fault, line + hidden + rest.count (.char '\n')⟩]
        | .ok (pieces, behind, lines) =>
            ⟨.redirect 0 .text, line⟩ :: ⟨.word pieces, line⟩ ::
              lexemes fuel line (hidden + lines) behind
      else
        match redirection? (c :: rest) with
        | some (token, behind) => ⟨token, line⟩ :: lexemes fuel line hidden behind
        | none =>
            match marks.find? (Text.startsWith (c :: rest)) with
            | some mark =>
                ⟨.mark mark, line⟩ :: lexemes fuel line hidden ((c :: rest).drop mark.length)
            | none =>
                match wordPieces true (rest.length + 2) line (c :: rest) with
                | .error fault => [⟨.fault fault, line + rest.count (.char '\n')⟩]
                | .ok (pieces, behind) =>
                    let line := lineBehind line (c :: rest) behind
                    ⟨.word pieces, line⟩ :: lexemes fuel line hidden behind

end Shell

end FenceCheck

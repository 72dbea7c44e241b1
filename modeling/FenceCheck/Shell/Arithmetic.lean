import FenceCheck.Shell.Numeral

/-!
Whole-number expressions of a shell script. Numbers have 64 bits; names stand for the numbers in
variables, and may be set. A sign binds by its level, and signs of one level from the left.
-/

namespace FenceCheck

namespace Shell

inductive Expression where
  | number (n : Int)
  | named (name : Text)
  | unary (sign : Text) (operand : Expression)
  | binary (sign : Text) (left right : Expression)
  | choice (condition first second : Expression)
  /-- A name set to a value, combined with its own value by the sign if there is one. -/
  | assigned (name sign : Text) (value : Expression)
  deriving DecidableEq, Repr, Inhabited

inductive Symbol where
  | number (n : Int)
  | name (t : Text)
  | sign (t : Text)
  deriving DecidableEq, Repr

inductive ArithmeticFault where
  | noPrimary
  | unexpected
  | zeroDivisor
  /-- A variable holds no number. -/
  | badNumber (value : Text)
  deriving DecidableEq, Repr

namespace ArithmeticFault

def about (expression description : Text) : Text :=
  Text.ofString "arithmetic expression: " ++ description ++ Text.ofString ": \x22" ++
    expression ++ Text.ofString "\x22"

def message (expression : Text) : ArithmeticFault → Text
  | noPrimary => about expression "expecting primary"
  | unexpected => about expression "expecting EOF"
  | zeroDivisor => about expression "division by zero"
  | badNumber value => Text.ofString "Illegal number: " ++ value

end ArithmeticFault

def arithmeticSigns : List Text :=
  ["<<=", ">>=", "==", "!=", "<=", ">=", "&&", "||", "<<", ">>", "+=", "-=", "*=", "/=", "%=",
   "&=", "|=", "^=", "+", "-", "*", "/", "%", "<", ">", "!", "~", "&", "|", "^", "(", ")", "?",
   ":", "="].map Text.ofString

/-- The signs that end like a setting and are none. -/
def comparisons : List Text := ["==", "!=", "<=", ">="]

/-- The signs between two operands by level, the loosest first. -/
def signLevels : List (List Text) :=
  [["||"], ["&&"], ["|"], ["^"], ["&"], ["==", "!="], ["<=", ">=", "<", ">"], ["<<", ">>"],
   ["+", "-"], ["*", "/", "%"]]

/-- A number cut to the largest and the smallest one of 64 bits. -/
def clamped (n : Int) : Int := max (-9223372036854775808) (min 9223372036854775807 n)

def numberIn (value : Text) : Except ArithmeticFault Int :=
  let (n, rest) := signedNumeral value
  if rest.all isBlank then .ok (clamped n) else .error (.badNumber value)

def symbols : Nat → Text → Except ArithmeticFault (List Symbol)
  | 0, _ => .ok []
  | _, [] => .ok []
  | fuel + 1, c :: rest =>
      if isOneOf " \t\n" c then symbols fuel rest
      else if isDigit c then
        let (n, behind) := numeral (c :: rest)
        (symbols fuel behind).map (.number (clamped n) :: ·)
      else if isNameStart c then
        (symbols fuel (rest.dropWhile isNameChar)).map
          (.name (c :: rest.takeWhile isNameChar) :: ·)
      else
        match arithmeticSigns.find? (Text.startsWith (c :: rest)) with
        | some sign => (symbols fuel ((c :: rest).drop sign.length)).map (.sign sign :: ·)
        | none => .error .unexpected

abbrev ParsedExpression := Except ArithmeticFault (Expression × List Symbol)

def isSymbol (t : Text) : List Symbol → Bool
  | .sign sign :: _ => sign = t
  | _ => false

mutual

def expression : Nat → List Symbol → ParsedExpression
  | 0, _ => .error .noPrimary
  | fuel + 1, symbols =>
      match symbols with
      | .name name :: .sign sign :: rest =>
          if Text.endsWith sign "=" && !comparisons.contains sign then do
            let (value, rest) ← expression fuel rest
            return (.assigned name sign.dropLast value, rest)
          else chosen fuel symbols
      | symbols => chosen fuel symbols

def chosen : Nat → List Symbol → ParsedExpression
  | 0, _ => .error .noPrimary
  | fuel + 1, symbols => do
      let (condition, rest) ← operands fuel signLevels symbols
      if isSymbol "?" rest then
        let (first, rest) ← expression fuel (rest.drop 1)
        if !isSymbol ":" rest then throw .unexpected
        let (second, rest) ← expression fuel (rest.drop 1)
        return (.choice condition first second, rest)
      return (condition, rest)

def operands : Nat → List (List Text) → List Symbol → ParsedExpression
  | 0, _, _ => .error .noPrimary
  | fuel + 1, [], symbols => operand fuel symbols
  | fuel + 1, signs :: tighter, symbols => do
      let (first, rest) ← operands fuel tighter symbols
      joined fuel signs tighter first rest

def joined : Nat → List Text → List (List Text) → Expression → List Symbol → ParsedExpression
  | 0, _, _, _, _ => .error .noPrimary
  | fuel + 1, signs, tighter, first, symbols =>
      match symbols with
      | .sign sign :: rest =>
          if signs.contains sign then do
            let (second, rest) ← operands fuel tighter rest
            joined fuel signs tighter (.binary sign first second) rest
          else .ok (first, symbols)
      | _ => .ok (first, symbols)

def operand : Nat → List Symbol → ParsedExpression
  | 0, _ => .error .noPrimary
  | fuel + 1, symbols =>
      match symbols with
      | .number n :: rest => .ok (.number n, rest)
      | .name name :: rest => .ok (.named name, rest)
      | .sign sign :: rest =>
          if sign = Text.ofString "(" then do
            let (inside, rest) ← expression fuel rest
            if !isSymbol ")" rest then throw .noPrimary
            return (inside, rest.drop 1)
          else if ["+", "-", "!", "~"].any fun s => sign = Text.ofString s then do
            let (inside, rest) ← operand fuel rest
            return (.unary sign inside, rest)
          else .error .noPrimary
      | [] => .error .noPrimary

end

def Expression.ofText (t : Text) : Except ArithmeticFault Expression := do
  let symbols ← symbols (t.length + 1) t
  let (expression, rest) ← expression (16 * symbols.length + 16) symbols
  if rest.isEmpty then return expression
  else throw .unexpected

/-- A number cut to 64 bits. -/
def wrapped (n : Int) : Int := n.bmod 18446744073709551616

def truth (b : Bool) : Int := if b then 1 else 0

/-- The bits of a number by which another number is combined with it. -/
def bitwise (f : Nat → Nat → Nat) (a b : Int) : Int :=
  let bits (n : Int) : Nat := (n % 18446744073709551616).toNat
  wrapped (f (bits a) (bits b))

def combined (sign : Text) (a b : Int) : Except ArithmeticFault Int :=
  match String.ofList (sign.toChars?.getD []) with
  | "+" => .ok (wrapped (a + b))
  | "-" => .ok (wrapped (a - b))
  | "*" => .ok (wrapped (a * b))
  | "/" => if b = 0 then .error .zeroDivisor else .ok (wrapped (a.tdiv b))
  | "%" => if b = 0 then .error .zeroDivisor else .ok (a.tmod b)
  | "==" => .ok (truth (a = b))
  | "!=" => .ok (truth (a ≠ b))
  | "<" => .ok (truth (a < b))
  | "<=" => .ok (truth (a ≤ b))
  | ">" => .ok (truth (a > b))
  | ">=" => .ok (truth (a ≥ b))
  | "&" => .ok (bitwise (· &&& ·) a b)
  | "|" => .ok (bitwise (· ||| ·) a b)
  | "^" => .ok (bitwise (· ^^^ ·) a b)
  | "<<" => .ok (wrapped (a * (Nat.pow 2 (b % 64).toNat : Nat)))
  | ">>" => .ok (a.fdiv (Nat.pow 2 (b % 64).toNat : Nat))
  | _ => .ok b

/-- The number of a variable, of which some may be set by now. -/
def settled (lookup : Text → Except ArithmeticFault Int) (set : List (Text × Int)) (name : Text) :
    Except ArithmeticFault Int :=
  match set.lookup name with
  | some n => .ok n
  | none => lookup name

def Expression.value (lookup : Text → Except ArithmeticFault Int) :
    Expression → List (Text × Int) → Except ArithmeticFault (Int × List (Text × Int))
  | number n, set => .ok (n, set)
  | named name, set => do return (← settled lookup set name, set)
  | unary sign operand, set => do
      let (n, set) ← operand.value lookup set
      return (match String.ofList (sign.toChars?.getD []) with
        | "-" => wrapped (-n)
        | "!" => truth (n = 0)
        | "~" => -n - 1
        | _ => n, set)
  | binary sign left right, set => do
      let (a, set) ← left.value lookup set
      -- The right operand sets nothing where the left one decides.
      if sign = Text.ofString "&&" && a = 0 then return (0, set)
      if sign = Text.ofString "||" && a ≠ 0 then return (1, set)
      let (b, set) ← right.value lookup set
      if sign = Text.ofString "&&" || sign = Text.ofString "||" then return (truth (b ≠ 0), set)
      return (← combined sign a b, set)
  | choice condition first second, set => do
      let (c, set) ← condition.value lookup set
      if c ≠ 0 then first.value lookup set else second.value lookup set
  | assigned name sign value, set => do
      let (b, set) ← value.value lookup set
      if sign.isEmpty then return (b, (name, b) :: set)
      let n ← combined sign (← settled lookup set name) b
      return (n, (name, n) :: set)

end Shell

end FenceCheck

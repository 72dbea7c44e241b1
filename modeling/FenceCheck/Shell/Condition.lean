import FenceCheck.Files.Change
import FenceCheck.Machine.Program
import FenceCheck.Shell.Format

/-!
Conditions about texts, numbers and files, written as words. Three words with an operator between two
others are taken as such, whatever else they could be; otherwise negation binds before conjunction,
and conjunction before disjunction. All parts of a condition are looked at.
-/

namespace FenceCheck

namespace Shell

namespace Condition

inductive Role where
  | ending
  | operand
  | unary
  | comparison
  | negation
  | conjunction
  | disjunction
  | opening
  | closing
  deriving DecidableEq, Repr

def unaryNames : List Text :=
  ["-G", "-L", "-O", "-S", "-b", "-c", "-d", "-e", "-f", "-g", "-h", "-k", "-n", "-p", "-r", "-s",
   "-t", "-u", "-w", "-x", "-z"].map Text.ofString

def comparisonNames : List Text :=
  ["=", "!=", "<", ">", "-eq", "-ne", "-ge", "-gt", "-le", "-lt", "-nt", "-ot", "-ef"].map
    Text.ofString

def nameRole (t : Text) : Role :=
  if unaryNames.contains t then .unary
  else if comparisonNames.contains t then .comparison
  else if t = Text.ofString "!" then .negation
  else if t = Text.ofString "-a" then .conjunction
  else if t = Text.ofString "-o" then .disjunction
  else if t = Text.ofString "(" then .opening
  else if t = Text.ofString ")" then .closing
  else .operand

/-- What the first word means in front of the others. -/
def roleOf : List Text → Role
  | [] => .ending
  | t :: rest =>
      match nameRole t, rest with
      | .unary, [] => .operand
      | .unary, [_] => .unary
      | .unary, next :: _ => if nameRole next = .comparison then .operand else .unary
      | .opening, [] => .operand
      | role, _ => role

def badNumber (t : Text) : Text := Text.ofString "Illegal number: " ++ t

def number (t : Text) : Except Text Int :=
  let blank := isOneOf " \t\n\x0b\x0c\r"
  let trimmed := Text.dropEndWhile blank (t.dropWhile blank)
  let digits := if trimmed.head?.any (isOneOf "+-") then trimmed.drop 1 else trimmed
  let n := (integerArgument trimmed).1
  if digits.isEmpty || !digits.all isDigit || n < -9223372036854775808 || 9223372036854775807 < n then
    .error (badNumber t)
  else .ok n

def leadsTo (files : Files) (kind : FileNode → Bool) (t : Text) : Bool :=
  (files.findTyped t).toOption.any kind

/-- Whether a node holds anything; a directory does. -/
def isFilled : FileNode → Bool
  | .file bytes _ => !bytes.isEmpty
  | _ => true

def isOpen : FileNode → Bool
  | .file _ executable => executable
  | _ => true

def isLink (files : Files) (t : Text) : Bool :=
  let path := Path.ofText t
  match path.names.getLast?, files.place path.parent with
  | some name, .ok place =>
      match files.root.at? (place.names ++ [name]) with
      | some (.link _) => true
      | _ => false
  | _, _ => false

/-- Whether an operator with one operand holds. There are no terminals, and no files but plain ones,
directories and links. -/
def holdsOf (files : Files) (operator t : Text) : Except Text Bool :=
  match String.ofList (operator.toChars?.getD []) with
  | "-n" => .ok !t.isEmpty
  | "-z" => .ok t.isEmpty
  | "-f" => .ok (leadsTo files FileNode.isFile t)
  | "-d" => .ok (leadsTo files FileNode.isDirectory t)
  | "-e" | "-r" | "-w" | "-O" | "-G" => .ok (leadsTo files (fun _ => true) t)
  | "-s" => .ok (leadsTo files isFilled t)
  | "-x" => .ok (leadsTo files isOpen t)
  | "-h" | "-L" => .ok (isLink files t)
  | "-t" => (number t).map fun _ => false
  | _ => .ok false

def holdsBetween (files : Files) (operator a b : Text) : Except Text Bool :=
  let compared (relation : Int → Int → Bool) : Except Text Bool := do
    return relation (← number a) (← number b)
  match String.ofList (operator.toChars?.getD []) with
  | "=" => .ok (a = b)
  | "!=" => .ok (a ≠ b)
  | "<" => .ok (!Text.le b a)
  | ">" => .ok (!Text.le a b)
  | "-eq" => compared fun x y => x = y
  | "-ne" => compared fun x y => x ≠ y
  | "-lt" => compared fun x y => x < y
  | "-le" => compared fun x y => x ≤ y
  | "-gt" => compared fun x y => x > y
  | "-ge" => compared fun x y => x ≥ y
  | "-ef" =>
      match files.placeTyped false a, files.placeTyped false b with
      | .ok first, .ok second => .ok (first.names = second.names)
      | _, _ => .ok false
  | _ => .ok false

/-- Whether a part of a condition holds, and its last word with the words behind it. -/
abbrev Judged := Except Text (Bool × List Text)

mutual

def disjunction (files : Files) : Nat → Role → List Text → Judged
  | 0, _, words => .ok (false, words)
  | fuel + 1, role, words => do
      let (first, words) ← conjunction files fuel role words
      if roleOf (words.drop 1) = .disjunction then
        let words := words.drop 2
        let (second, words) ← disjunction files fuel (roleOf words) words
        return (first || second, words)
      else return (first, words)

def conjunction (files : Files) : Nat → Role → List Text → Judged
  | 0, _, words => .ok (false, words)
  | fuel + 1, role, words => do
      let (first, words) ← negation files fuel role words
      if roleOf (words.drop 1) = .conjunction then
        let words := words.drop 2
        let (second, words) ← conjunction files fuel (roleOf words) words
        return (first && second, words)
      else return (first, words)

def negation (files : Files) : Nat → Role → List Text → Judged
  | 0, _, words => .ok (false, words)
  | fuel + 1, .negation, words => do
      let role := roleOf (words.drop 1)
      let (holds, words) ← negation files fuel role (if role = .ending then words else words.drop 1)
      return (!holds, words)
  | fuel + 1, role, words => primary files fuel role words

def primary (files : Files) : Nat → Role → List Text → Judged
  | 0, _, words => .ok (false, words)
  | _, .ending, words => .ok (false, words)
  | fuel + 1, .opening, words => do
      let words := words.drop 1
      let role := roleOf words
      if role = .closing then return (false, words)
      let (holds, words) ← disjunction files fuel role words
      if roleOf (words.drop 1) = .closing then return (holds, words.drop 1)
      else throw (Text.ofString "closing paren expected")
  | _, .unary, words =>
      match words with
      | operator :: t :: rest => do return (← holdsOf files operator t, t :: rest)
      | words => .error (words.headD [] ++ Text.ofString ": argument expected")
  | _, _, words =>
      match words with
      | a :: operator :: b :: rest =>
          -- A comparison is known by its second word; any other word holds if it is not empty.
          if roleOf (operator :: b :: rest) = .comparison then do
            return (← holdsBetween files operator a b, b :: rest)
          else .ok (!a.isEmpty, words)
      | [_, operator] =>
          if nameRole operator = .comparison then
            .error (operator ++ Text.ofString ": argument expected")
          else .ok (!(words.headD []).isEmpty, words)
      | words => .ok (!(words.headD []).isEmpty, words)

end

def judge (files : Files) (role : Role) (words : List Text) : Except Text Bool := do
  let (holds, left) ← disjunction files (8 * words.length + 8) role words
  match left with
  | t :: _ :: _ => throw (t ++ Text.ofString ": unexpected operator")
  | _ => return holds

/-- Whether the condition that words make holds. Without words none does. -/
def holds (files : Files) : List Text → Except Text Bool
  | [] => .ok false
  -- Up to four words are read by their number, whatever operators they look like.
  | [a, operator, b] =>
      if nameRole operator = .comparison then judge files .operand [a, operator, b]
      else if a = Text.ofString "(" && b = Text.ofString ")" then
        judge files (roleOf [operator]) [operator]
      else if a = Text.ofString "!" then (holds files [operator, b]).map not
      else judge files (roleOf [a, operator, b]) [a, operator, b]
  | [a, b, c, d] =>
      if a = Text.ofString "(" && d = Text.ofString ")" then judge files (roleOf [b, c]) [b, c]
      else if a = Text.ofString "!" then (holds files [b, c, d]).map not
      else judge files (roleOf [a, b, c, d]) [a, b, c, d]
  | words => judge files (roleOf words) words
  termination_by words => words.length

end Condition

end Shell

end FenceCheck

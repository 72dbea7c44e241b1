import FenceCheck.Files.Lookup
import FenceCheck.Shell.Format

/-!
Patterns of a shell: a star stands for any bytes, a question mark for one byte and brackets for one of
a set. A letter that was quoted stands for itself.
-/

namespace FenceCheck

namespace Shell

/-- A code point of a word, and whether it stands for itself whatever it is. -/
structure Letter where
  point : CodePoint
  literal : Bool
  deriving DecidableEq, Repr

def textOf (word : List Letter) : Text := word.map (·.point)

/-- A text with each byte as a code point of its own. -/
def byteUnits (t : Text) : Text :=
  (bytesOf t).map fun b =>
    if b < 0x80 then .char (Char.ofNat b.toNat) else .surrogateAt (0x400 + b.toNat)

inductive GlobPart where
  | anyText
  | anyOne
  | oneOf (negated : Bool) (ranges : List (CodePoint × CodePoint))
  | exactly (c : CodePoint)
  deriving DecidableEq, Repr

def isSign (c : Char) (letter : Letter) : Bool := !letter.literal && letter.point = .char c

def classRanges : List (Text × List (Char × Char)) :=
  [("digit", [('0', '9')]), ("upper", [('A', 'Z')]), ("lower", [('a', 'z')]),
   ("alpha", [('A', 'Z'), ('a', 'z')]), ("alnum", [('0', '9'), ('A', 'Z'), ('a', 'z')]),
   ("xdigit", [('0', '9'), ('A', 'F'), ('a', 'f')]), ("space", [('\t', '\r'), (' ', ' ')]),
   ("blank", [('\t', '\t'), (' ', ' ')]), ("cntrl", [('\x00', '\x1f'), ('\x7f', '\x7f')]),
   ("punct", [('!', '/'), (':', '@'), ('[', '\x60'), ('\x7b', '~')]), ("graph", [('!', '~')]),
   ("print", [(' ', '~')])].map fun (name, ranges) => (Text.ofString name, ranges)

def classAt? (word : List Letter) : Option (List (CodePoint × CodePoint) × List Letter) :=
  match word with
  | bracket :: colon :: rest =>
      if isSign '[' bracket && isSign ':' colon then
        let name := rest.takeWhile fun letter => !isSign ':' letter
        match rest.drop name.length with
        | _ :: closing :: behind =>
            if isSign ']' closing then
              (classRanges.lookup (textOf name)).map fun ranges =>
                (ranges.map fun (low, high) => (.char low, .char high), behind)
            else none
        | _ => none
      else none
  | _ => none

def rangesUpTo : Nat → List Letter → Option (List (CodePoint × CodePoint) × List Letter)
  | 0, _ => none
  | _, [] => none
  | fuel + 1, low :: rest =>
      if isSign ']' low then some ([], rest) else memberUpTo fuel low rest
where
  /-- The same where the next letter belongs to the set whatever it is. -/
  memberUpTo (fuel : Nat) (low : Letter) (rest : List Letter) :
      Option (List (CodePoint × CodePoint) × List Letter) :=
    match classAt? (low :: rest) with
    | some (ranges, behind) =>
        (rangesUpTo fuel behind).map fun (more, behind) => (ranges ++ more, behind)
    | none =>
        match rest with
        | dash :: high :: behind =>
            if isSign '-' dash && !isSign ']' high then
              (rangesUpTo fuel behind).map fun (more, behind) =>
                ((low.point, high.point) :: more, behind)
            else
              (rangesUpTo fuel rest).map fun (more, behind) =>
                ((low.point, low.point) :: more, behind)
        | rest =>
            (rangesUpTo fuel rest).map fun (more, behind) =>
              ((low.point, low.point) :: more, behind)

/-- The set that brackets name, and what is behind it. A closing bracket that comes first belongs to
the set. -/
def bracketed? (word : List Letter) : Option (GlobPart × List Letter) :=
  let negated := (word.head?.map (isSign '!')).getD false
  match if negated then word.drop 1 else word with
  | [] => none
  | first :: rest =>
      (rangesUpTo.memberUpTo (rest.length + 1) first rest).map fun (ranges, behind) =>
        (.oneOf negated ranges, behind)

def globParts : Nat → List Letter → List GlobPart
  | 0, _ => []
  | _, [] => []
  | fuel + 1, letter :: rest =>
      if isSign '*' letter then .anyText :: globParts fuel rest
      else if isSign '?' letter then .anyOne :: globParts fuel rest
      else
        match if isSign '[' letter then bracketed? rest else none with
        | some (part, behind) => part :: globParts fuel behind
        | none => .exactly letter.point :: globParts fuel rest

def GlobPart.accepts : GlobPart → CodePoint → Bool
  | anyText, _ => true
  | anyOne, _ => true
  | oneOf negated ranges, c =>
      (ranges.any fun range => range.1.val ≤ c.val && c.val ≤ range.2.val) != negated
  | exactly d, c => c = d

def matchesParts : List GlobPart → Text → Bool
  | [], t => t.isEmpty
  | .anyText :: rest, t => (List.range (t.length + 1)).any fun n => matchesParts rest (t.drop n)
  | _ :: _, [] => false
  | part :: rest, c :: t => part.accepts c && matchesParts rest t

/-- The parts of a pattern, byte by byte. -/
def partsOf (pattern : List Letter) : List GlobPart :=
  let units := pattern.flatMap fun letter => (byteUnits [letter.point]).map (⟨·, letter.literal⟩)
  globParts units.length units

def matchesGlob (pattern : List Letter) (t : Text) : Bool :=
  matchesParts (partsOf pattern) (byteUnits t)

def isGlob (word : List Letter) : Bool :=
  word.any fun letter => isSign '*' letter || isSign '?' letter || isSign '[' letter

def namesIn (files : Files) (directory : Text) : List Text :=
  match files.findTyped (if directory.isEmpty then "." else directory) with
  | .ok (.directory entries) =>
      (Text.ofString "." :: Text.ofString ".." :: entries.map (·.1)).mergeSort Text.le
  | _ => []

/-- The names that a part of a path stands for. Hidden names have to be asked for. -/
def namesFor (files : Files) (directory : Text) (pattern : List Letter) : List Text :=
  (namesIn files directory).filter fun name =>
    matchesGlob pattern name &&
      (!Text.startsWith name "." || (pattern.head?.map (·.point)) = some (.char '.'))

def pathParts : List Letter → List (List Letter)
  | [] => [[]]
  | letter :: rest =>
      if letter.point = Path.slash then [] :: pathParts rest
      else
        match pathParts rest with
        | part :: more => (letter :: part) :: more
        | [] => [[letter]]

/-- The paths that a pattern stands for, each behind a path that was reached. -/
def pathsFor (files : Files) : List Text → List (List Letter) → List Text
  | reached, [] => reached
  | reached, [part] =>
      if isGlob part then reached.flatMap fun path => (namesFor files path part).map (path ++ ·)
      else
        (reached.map (· ++ textOf part)).filter fun path => (files.findTyped path).toOption.isSome
  | reached, part :: rest =>
      let next :=
        if isGlob part then reached.flatMap fun path => (namesFor files path part).map (path ++ ·)
        else reached.map (· ++ textOf part)
      pathsFor files (next.map (· ++ [Path.slash])) rest

def globbed (files : Files) (word : List Letter) : List Text :=
  if isGlob word then
    match pathsFor files [[]] (pathParts word) with
    | [] => [textOf word]
    | paths => paths
  else [textOf word]

end Shell

end FenceCheck

import FenceCheck.Document.Block
import FenceCheck.Text.LowerCase
import FenceCheck.Text.Pattern

/-!
References to modules in a source text: static imports, exports from another module, calls of
`import` and calls of `require`. They decide whether a block runs as it is or is bundled first.
-/

namespace FenceCheck

namespace Source

def isQuote (c : CodePoint) : Bool := c = .char '\x22' || c = .char '\x27'

def quote : Pattern := .one isQuote

def isImportName (c : CodePoint) : Bool :=
  c.isWord || c.isBlank || c = .char '*' || c = .char '\x7b' || c = .char '\x7d' ||
    c = .char ',' || c = .char '$'

def typeOnly : Pattern := .optional (.seq (.literal "type") .someBlanks)

def fromQuote : Pattern := .sequence [.someBlanks, .literal "from", .blanks, quote]

def importFrom : Pattern :=
  .sequence [.lineStart, .blanks, .literal "import", .someBlanks, typeOnly, .oneOrMore isImportName,
    fromQuote]

def importBare : Pattern := .sequence [.lineStart, .blanks, .literal "import", .blanks, quote]

def exported : Pattern :=
  .either (.literal "*")
    (.sequence [.literal "\x7b", .many (· ≠ .char '\x7d'), .literal "\x7d"])

def exportedName : Pattern :=
  .optional (.sequence [.someBlanks, .literal "as", .someBlanks, .oneOrMore CodePoint.isWord])

def exportFrom : Pattern :=
  .sequence [.lineStart, .blanks, .literal "export", .someBlanks, typeOnly, exported, exportedName,
    fromQuote]

def callOf (name : Text) : Pattern :=
  .sequence [.wordEdge, .literal name, .blanks, .literal "(", .blanks, quote]

def requireCall : Pattern := callOf "require"

/-- References that need a bundler whatever they refer to. -/
def esModule : Pattern := .anyOf [importFrom, importBare, exportFrom, callOf "import"]

def moduleReference : Pattern :=
  .anyOf [importFrom, importBare, exportFrom, requireCall, callOf "import"]

def hasModuleReference (source : Text) : Bool := moduleReference.occursIn source

/-- The quoted text behind the opening quote of a call and what follows its closing parenthesis. -/
def quotedArgument (cursor : Cursor) : Option (Text × Text) :=
  let specifier := cursor.rest.takeWhile fun c => !isQuote c
  if specifier.isEmpty then none
  else
    (Pattern.sequence [quote, .blanks, .literal ")"]).runThen
      (fun behind => some (specifier, behind.rest))
      ⟨specifier.getLast?, cursor.rest.dropWhile fun c => !isQuote c⟩

/-- What is required by calls with one quoted argument, from left to right. -/
def requiredSpecifiers (source : Text) : List Text :=
  Pattern.allFrom (requireCall.runThen quotedArgument) none 0 source

def isBuiltIn (allowed : List Text) (specifier : Text) : Bool :=
  Text.startsWith specifier "node:" || allowed.contains specifier

def needsBundling (source : Text) (allowed : List Text) : Bool :=
  hasModuleReference source &&
    (esModule.occursIn source || (requiredSpecifiers source).any fun s => !isBuiltIn allowed s)

end Source

namespace Block

def isTypeScript (block : Block) : Bool :=
  let language := Text.lower block.language
  language = "ts" || language = "typescript"

end Block

end FenceCheck

import FenceCheck.Text.Pattern

/-!
Whether a source names a global of a web page outside its comments, in which case it runs with a
document at hand. Two slashes behind a colon or a word are part of an address and open no comment.
-/

namespace FenceCheck

namespace Source

def blockComment : Pattern := .sequence [.literal "/*", .few fun _ => true, .literal "*/"]

def lineComment : Pattern :=
  .sequence [.notAfter fun c => c = .char ':' || c.isWord, .literal "//", .many (· ≠ .char '\n')]

def withoutComments (source : Text) : Text :=
  (Pattern.either blockComment lineComment).deleteAll source

def pageGlobalNames : List Text :=
  ["document", "window", "localStorage", "sessionStorage", "navigator", "location", "Element",
   "Node"]

def pageGlobal : Pattern :=
  .sequence
    [.wordEdge,
     .anyOf (pageGlobalNames.map .literal ++
       [.sequence [.literal "HTML", .many CodePoint.isWord, .literal "Element"]]),
     .wordEdge]

def usesPage (source : Text) : Bool := pageGlobal.occursIn (withoutComments source)

end Source

end FenceCheck

import FenceCheck.Proofs.LossyText
import FenceCheck.Proofs.PathText
import FenceCheck.Text.Hex
import FenceCheck.Xml.Element
import Mathlib.Data.List.Basic

/-!
A reader of XML 1.0, for documents without declarations, comments, instructions and sections. It
takes nothing but legal characters, reads all line ends as line feeds and all blanks in an attribute
as spaces, and resolves references. What is written of an element is read back as it was, but for line
ends in text.
-/

namespace FenceCheck

theorem CodePoint.val_char {c : CodePoint} {d : Char} : c.val = d.toNat ↔ c = .char d := by
  cases c with
  | char c => exact Char.toNat_inj.trans (CodePoint.char.injEq c d ▸ Iff.rfl)
  | surrogate half =>
      have valid : d.toNat.isValidChar := d.valid
      have low := half.isLt
      refine iff_of_false (fun same => ?_) CodePoint.noConfusion
      simp only [CodePoint.val] at same
      simp only [Nat.isValidChar] at valid
      omega

namespace Xml

/-- The characters that a document can hold, in whatever form. -/
def isLegal (c : CodePoint) : Bool :=
  CodePoint.inRanges [(0x9, 0xA), (0xD, 0xD), (0x20, 0xD7FF), (0xE000, 0xFFFD), (0x10000, 0x10FFFF)]
    c.val

def isSpace (c : CodePoint) : Bool := CodePoint.inRanges [(0x9, 0xA), (0xD, 0xD), (0x20, 0x20)] c.val

def opensName (c : CodePoint) : Bool :=
  CodePoint.inRanges
    [(0x3A, 0x3A), (0x41, 0x5A), (0x5F, 0x5F), (0x61, 0x7A), (0xC0, 0xD6), (0xD8, 0xF6), (0xF8, 0x2FF),
     (0x370, 0x37D), (0x37F, 0x1FFF), (0x200C, 0x200D), (0x2070, 0x218F), (0x2C00, 0x2FEF),
     (0x3001, 0xD7FF), (0xF900, 0xFDCF), (0xFDF0, 0xFFFD), (0x10000, 0xEFFFF)] c.val

def continuesName (c : CodePoint) : Bool :=
  opensName c ||
    CodePoint.inRanges [(0x2D, 0x2E), (0x30, 0x39), (0xB7, 0xB7), (0x300, 0x36F), (0x203F, 0x2040)] c.val

def isName : Text → Bool
  | [] => false
  | c :: rest => opensName c && rest.all continuesName

/-- What a document holds: text, and elements with what is in them. -/
inductive Node where
  | text (t : Text)
  | element (name : Text) (attributes : List (Text × Text)) (content : List Node)
  deriving Repr

def numberOf (base : Nat) (digits : Text) : Option Nat :=
  let value : CodePoint → Option Nat
    | .char c => (Hex.value? c).filter (· < base)
    | .surrogate _ => none
  if digits.isEmpty then none else digits.foldlM (fun n c => (value c).map (n * base + ·)) 0

def referent : Text → Option CodePoint
  | .char '#' :: .char 'x' :: digits =>
      ((numberOf 16 digits).bind CodePoint.ofVal?).filter isLegal
  | .char '#' :: digits => ((numberOf 10 digits).bind CodePoint.ofVal?).filter isLegal
  | name =>
      if name = Text.ofString "amp" then some '&'
      else if name = Text.ofString "lt" then some '<'
      else if name = Text.ofString "gt" then some '>'
      else if name = Text.ofString "quot" then some '\x22'
      else if name = Text.ofString "apos" then some '\x27'
      else none

/-- Text without its references, of which one may have begun with `name`. -/
def resolveFrom : Option Text → Text → Option Text
  | none, [] => some []
  | some _, [] => none
  | none, c :: rest =>
      if c = .char '&' then resolveFrom (some []) rest else (resolveFrom none rest).map (c :: ·)
  | some name, c :: rest =>
      if c = .char ';' then (referent name).bind fun d => (resolveFrom none rest).map (d :: ·)
      else resolveFrom (some (name ++ [c])) rest

def resolve (t : Text) : Option Text := resolveFrom none t

/-- The value of an attribute from what stands between the quotes. -/
def valueOf (t : Text) : Option Text := resolve (t.map fun c => if isSpace c then .char ' ' else c)

/-- What is in a tag, and the text behind it. A tag does not end between quotes. -/
def cutTag : Option CodePoint → Text → Option (Text × Text)
  | _, [] => none
  | none, c :: rest =>
      if c = .char '>' then some ([], rest)
      else
        (cutTag (if c = .char '\x22' ∨ c = .char '\x27' then some c else none) rest).map fun cut =>
          (c :: cut.1, cut.2)
  | some mark, c :: rest =>
      (cutTag (if c = mark then none else some mark) rest).map fun cut => (c :: cut.1, cut.2)

/-- Where a reader is behind the name of a tag. -/
inductive Within where
  | gap (spaced : Bool)
  | name (name : Text)
  | equals (name : Text)
  | quote (name : Text)
  | value (name : Text) (mark : CodePoint) (value : Text)

/-- The attributes of a tag, and whether the tag is a whole element. -/
def attributesFrom : Within → Text → Option (List (Text × Text) × Bool)
  | .gap _, [] => some ([], false)
  | _, [] => none
  | .gap spaced, c :: rest =>
      if isSpace c then attributesFrom (.gap true) rest
      else if c = .char '/' then if rest.isEmpty then some ([], true) else none
      else if spaced && opensName c then attributesFrom (.name [c]) rest
      else none
  | .name name, c :: rest =>
      if c = .char '=' then attributesFrom (.quote name) rest
      else if isSpace c then attributesFrom (.equals name) rest
      else if continuesName c then attributesFrom (.name (name ++ [c])) rest
      else none
  | .equals name, c :: rest =>
      if c = .char '=' then attributesFrom (.quote name) rest
      else if isSpace c then attributesFrom (.equals name) rest
      else none
  | .quote name, c :: rest =>
      if c = .char '\x22' ∨ c = .char '\x27' then attributesFrom (.value name c []) rest
      else if isSpace c then attributesFrom (.quote name) rest
      else none
  | .value name mark value, c :: rest =>
      if c = mark then
        (valueOf value).bind fun value =>
          (attributesFrom (.gap false) rest).map fun read => ((name, value) :: read.1, read.2)
      else attributesFrom (.value name mark (value ++ [c])) rest

inductive Tag where
  | opening (name : Text) (attributes : List (Text × Text)) (whole : Bool)
  | closing (name : Text)

def tagOf : Text → Option Tag
  | .char '/' :: body =>
      let name := body.takeWhile continuesName
      if isName name && (body.dropWhile continuesName).all isSpace then some (.closing name) else none
  | body =>
      let name := body.takeWhile continuesName
      (attributesFrom (.gap false) (body.dropWhile continuesName)).bind fun read =>
        if isName name && decide (read.1.map (·.1)).Nodup then some (.opening name read.1 read.2)
        else none

def textual (t : Text) : List Node := if t.isEmpty then [] else [.text t]

def pieceOf (t : Text) : Option (Tag × List Node) :=
  (cutTag none t).bind fun cut =>
    if Text.contains cut.2 "]]>" then none
    else (tagOf cut.1).bind fun tag => (resolve cut.2).map fun data => (tag, textual data)

/-- An element that has been opened, with what was read in it. -/
structure Frame where
  name : Text
  attributes : List (Text × Text)
  content : List Node

def Frame.add (frame : Frame) (nodes : List Node) : Frame :=
  { frame with content := frame.content ++ nodes }

/-- The open elements, from the innermost to the document, after a tag and the text behind it. -/
def step : List Frame → Tag × List Node → Option (List Frame)
  | frame :: outer, (.opening name attributes false, data) =>
      some (⟨name, attributes, data⟩ :: frame :: outer)
  | frame :: outer, (.opening name attributes true, data) =>
      some (frame.add (.element name attributes [] :: data) :: outer)
  | frame :: around :: outer, (.closing name, data) =>
      if frame.name = name then
        some (around.add (.element frame.name frame.attributes frame.content :: data) :: outer)
      else none
  | _, _ => none

def readPiece (stack : List Frame) (t : Text) : Option (List Frame) := (pieceOf t).bind (step stack)

/-- The one element of a document. -/
def rootOf : List Frame → Option Node
  | [document] =>
      match document.content.filter fun node =>
          match node with
          | .text t => !t.all isSpace
          | .element .. => true with
      | [.element name attributes content] => some (.element name attributes content)
      | _ => none
  | _ => none

def read (t : Text) : Option Node :=
  if t.all isLegal then
    match Text.splitAt '<' (Text.universalNewlines t) with
    | [] => none
    | before :: pieces =>
        if before.all isSpace then (pieces.foldlM readPiece [⟨[], [], []⟩]).bind rootOf else none
  else none

/-! Text and references. -/

variable {c : CodePoint} {rest t name : Text}

theorem resolve_plain (plain : c ≠ .char '&') (rest : Text) :
    resolve (c :: rest) = (resolve rest).map (c :: ·) := by
  rw [resolve, resolveFrom, if_neg plain]
  rfl

theorem resolve_escapeInText (c : CodePoint) (rest : Text) :
    resolve (escapeInText c ++ rest) = (resolve rest).map (c :: ·) := by
  unfold escapeInText
  split
  case h_1 => rfl
  case h_2 => rfl
  case h_3 => rfl
  case h_4 other _ _ => exact resolve_plain other rest

theorem resolve_escapeInAttribute (c : CodePoint) (rest : Text) :
    resolve (escapeInAttribute c ++ rest) = (resolve rest).map (c :: ·) := by
  unfold escapeInAttribute
  split
  case h_1 => rfl
  case h_2 => rfl
  case h_3 => rfl
  case h_4 => rfl
  case h_5 => exact resolve_escapeInText c rest

theorem resolve_flatMap {escape : CodePoint → Text}
    (each : ∀ c rest, resolve (escape c ++ rest) = (resolve rest).map (c :: ·)) (t : Text) :
    resolve (t.flatMap escape) = some t := by
  induction t with
  | nil => rfl
  | cons c rest ih =>
      rw [List.flatMap_cons, each, ih]
      rfl

theorem escapeInText_free (c : CodePoint) : .char '<' ∉ escapeInText c ∧ .char '>' ∉ escapeInText c := by
  unfold escapeInText
  split
  case h_1 => decide
  case h_2 => decide
  case h_3 => decide
  case h_4 _ left right => simp [Ne.symm left, Ne.symm right]

def attributeMarks : Text :=
  [.char '<', .char '>', .char '\x22', .char '\t', .char '\n', .char '\r']

theorem escapeInAttribute_free (c : CodePoint) : ∀ d ∈ escapeInAttribute c, d ∉ attributeMarks := by
  unfold escapeInAttribute
  split
  case h_1 => decide
  case h_2 => decide
  case h_3 => decide
  case h_4 => decide
  case h_5 quote ret feed tab =>
      unfold escapeInText
      split
      case h_1 => decide
      case h_2 => decide
      case h_3 => decide
      case h_4 _ left right =>
          intro d member inside
          cases List.mem_singleton.mp member
          simp only [attributeMarks, List.mem_cons, List.not_mem_nil, or_false] at inside
          rcases inside with same | same | same | same | same | same
          exacts [left same, right same, quote same, tab same, feed same, ret same]

theorem attribute_free {value : Text} {mark : CodePoint} (marks : mark ∈ attributeMarks) :
    mark ∉ value.flatMap escapeInAttribute := by
  intro member
  obtain ⟨c, -, inside⟩ := List.mem_flatMap.mp member
  exact escapeInAttribute_free c mark inside marks

theorem text_free {mark : CodePoint} (marks : mark = .char '<' ∨ mark = .char '>') :
    mark ∉ t.flatMap escapeInText := by
  intro member
  obtain ⟨c, -, inside⟩ := List.mem_flatMap.mp member
  rcases marks with rfl | rfl
  · exact (escapeInText_free c).1 inside
  · exact (escapeInText_free c).2 inside

theorem isSpace_cases (space : isSpace c = true) :
    c = .char '\t' ∨ c = .char '\n' ∨ c = .char '\r' ∨ c = .char ' ' := by
  simp only [isSpace, CodePoint.inRanges, List.any_cons, List.any_nil, Bool.or_false, Bool.or_eq_true,
    Bool.and_eq_true, decide_eq_true_eq] at space
  rw [← CodePoint.val_char, ← CodePoint.val_char, ← CodePoint.val_char, ← CodePoint.val_char]
  simp only [Char.reduceToNat]
  omega

theorem valueOf_escaped (value : Text) : valueOf (value.flatMap escapeInAttribute) = some value := by
  have spaces : (value.flatMap escapeInAttribute).map
      (fun c => if isSpace c then .char ' ' else c) = value.flatMap escapeInAttribute := by
    refine (List.map_congr_left fun c member => ?_).trans (List.map_id _)
    split
    case isTrue space =>
        rcases isSpace_cases space with rfl | rfl | rfl | rfl
        · exact absurd member (attribute_free (by decide))
        · exact absurd member (attribute_free (by decide))
        · exact absurd member (attribute_free (by decide))
        · rfl
    case isFalse => rfl
  rw [valueOf, spaces]
  exact resolve_flatMap resolve_escapeInAttribute value

/-! Tags. -/

theorem cutTag_plain {x : Text} (plain : ∀ c ∈ x, c ≠ .char '>' ∧ c ≠ .char '\x22' ∧ c ≠ .char '\x27')
    (rest : Text) : cutTag none (x ++ rest) = (cutTag none rest).map fun cut => (x ++ cut.1, cut.2) := by
  induction x with
  | nil => simp
  | cons c x ih =>
      obtain ⟨here, later⟩ := List.forall_mem_cons.mp plain
      rw [List.cons_append, cutTag, if_neg here.1, if_neg (not_or.mpr here.2), ih later,
        Option.map_map]
      rfl

theorem cutTag_quoted {value : Text} {mark : CodePoint} (free : mark ∉ value) (rest : Text) :
    cutTag (some mark) (value ++ mark :: rest) =
      (cutTag none rest).map fun cut => (value ++ mark :: cut.1, cut.2) := by
  induction value with
  | nil => rw [List.nil_append, cutTag, if_pos rfl]; rfl
  | cons c value ih =>
      obtain ⟨other, later⟩ := not_or.mp (mt List.mem_cons.mpr free)
      rw [List.cons_append, cutTag, if_neg (Ne.symm other), ih later, Option.map_map]
      rfl

/-! Names. -/

theorem continuesName_legal (named : continuesName c = true) : isLegal c = true := by
  simp only [continuesName, opensName, isLegal, CodePoint.inRanges, List.any_cons, List.any_nil,
    Bool.or_false, Bool.or_eq_true, Bool.and_eq_true, decide_eq_true_eq] at named ⊢
  omega

theorem continuesName_apart (named : continuesName c = true) {other : CodePoint}
    (mark : continuesName other = false) : c ≠ other := by
  rintro rfl
  rw [named] at mark
  cases mark

theorem continuesName_space (named : continuesName c = true) : isSpace c = false := by
  rw [Bool.eq_false_iff]
  intro space
  rcases isSpace_cases space with rfl | rfl | rfl | rfl
  · cases named
  · cases named
  · cases named
  · cases named

theorem isName_cons (named : isName name = true) :
    ∃ c rest, name = c :: rest ∧ opensName c = true ∧ ∀ d ∈ rest, continuesName d = true := by
  cases name with
  | nil => cases named
  | cons c rest =>
      obtain ⟨opens, others⟩ := Bool.and_eq_true_iff.mp named
      exact ⟨c, rest, rfl, opens, List.all_eq_true.mp others⟩

theorem isName_continues (named : isName name = true) : ∀ c ∈ name, continuesName c = true := by
  obtain ⟨c, rest, rfl, opens, others⟩ := isName_cons named
  exact List.forall_mem_cons.mpr ⟨by rw [continuesName, opens, Bool.true_or], others⟩

theorem name_ends (named : isName name = true) (rest : Text)
    (ends : ∀ c ∈ rest.head?, continuesName c = false) :
    (name ++ rest).takeWhile continuesName = name ∧ (name ++ rest).dropWhile continuesName = rest := by
  have continues := isName_continues named
  rw [List.takeWhile_append_of_pos continues, List.dropWhile_append_of_pos continues]
  cases rest with
  | nil => exact ⟨List.append_nil name, rfl⟩
  | cons c rest =>
      have other : ¬ continuesName c = true := by simp [ends c rfl]
      exact ⟨by rw [List.takeWhile_cons_of_neg other, List.append_nil],
        List.dropWhile_cons_of_neg other⟩

/-! Attributes. -/

theorem name_plain (named : isName name = true) :
    ∀ c ∈ name, c ≠ .char '>' ∧ c ≠ .char '\x22' ∧ c ≠ .char '\x27' := by
  intro c member
  have continues := isName_continues named c member
  exact ⟨continuesName_apart continues rfl, continuesName_apart continues rfl,
    continuesName_apart continues rfl⟩

theorem cutTag_attribute {entry : Text × Text} (named : isName entry.1 = true) (rest : Text) :
    cutTag none (writeAttribute entry ++ rest) =
      (cutTag none rest).map fun cut => (writeAttribute entry ++ cut.1, cut.2) := by
  have whole (t : Text) : writeAttribute entry ++ t = (.char ' ' :: entry.1 ++ [.char '=']) ++
      .char '\x22' :: (entry.2.flatMap escapeInAttribute ++ .char '\x22' :: t) := by
    simp [writeAttribute, Text.ofString, Text.ofChars]
  have plain : ∀ c ∈ .char ' ' :: entry.1 ++ [.char '='],
      c ≠ .char '>' ∧ c ≠ .char '\x22' ∧ c ≠ .char '\x27' := by
    refine List.forall_mem_append.mpr ⟨List.forall_mem_cons.mpr ⟨by decide, name_plain named⟩, ?_⟩
    exact List.forall_mem_singleton.mpr (by decide)
  rw [whole, cutTag_plain plain, cutTag, if_neg (by decide), if_pos (Or.inl rfl),
    cutTag_quoted (attribute_free (by decide)), Option.map_map, Option.map_map]
  congr
  funext cut
  exact Prod.ext (whole cut.1).symm rfl

theorem cutTag_all {entries : List (Text × Text)}
    (named : ∀ entry ∈ entries, isName entry.1 = true) (rest : Text) :
    cutTag none (entries.flatMap writeAttribute ++ rest) =
      (cutTag none rest).map fun cut => (entries.flatMap writeAttribute ++ cut.1, cut.2) := by
  induction entries with
  | nil => simp
  | cons entry entries ih =>
      obtain ⟨here, later⟩ := List.forall_mem_cons.mp named
      rw [List.flatMap_cons, List.append_assoc, cutTag_attribute here, ih later, Option.map_map]
      congr
      funext cut
      simp

theorem attributesFrom_name {more : Text} (continues : ∀ c ∈ more, continuesName c = true)
    (rest : Text) : attributesFrom (.name name) (more ++ .char '=' :: rest) =
      attributesFrom (.quote (name ++ more)) rest := by
  induction more generalizing name with
  | nil => rw [List.nil_append, attributesFrom, if_pos rfl, List.append_nil]
  | cons c more ih =>
      obtain ⟨here, later⟩ := List.forall_mem_cons.mp continues
      rw [List.cons_append, attributesFrom, if_neg (continuesName_apart here rfl),
        if_neg (by simp [continuesName_space here]), if_pos here, ih later, List.append_assoc]
      rfl

theorem attributesFrom_value {value more : Text} {mark : CodePoint} (free : mark ∉ more)
    (rest : Text) : attributesFrom (.value name mark value) (more ++ mark :: rest) =
      (valueOf (value ++ more)).bind fun value =>
        (attributesFrom (.gap false) rest).map fun read => ((name, value) :: read.1, read.2) := by
  induction more generalizing value with
  | nil => rw [List.nil_append, attributesFrom, if_pos rfl, List.append_nil]
  | cons c more ih =>
      obtain ⟨other, later⟩ := not_or.mp (mt List.mem_cons.mpr free)
      rw [List.cons_append, attributesFrom, if_neg (Ne.symm other), ih later, List.append_assoc]
      rfl

theorem attributesFrom_written {entry : Text × Text} (named : isName entry.1 = true) (rest : Text) :
    attributesFrom (.gap false) (writeAttribute entry ++ rest) =
      (attributesFrom (.gap false) rest).map fun read => (entry :: read.1, read.2) := by
  obtain ⟨name, value⟩ := entry
  obtain ⟨c, more, rfl, opens, continues⟩ := isName_cons named
  have whole : writeAttribute (c :: more, value) ++ rest =
      .char ' ' :: c :: (more ++ .char '=' :: .char '\x22' ::
        (value.flatMap escapeInAttribute ++ .char '\x22' :: rest)) := by
    simp [writeAttribute, Text.ofString, Text.ofChars]
  have named : continuesName c = true := by rw [continuesName, opens, Bool.true_or]
  rw [whole, attributesFrom, if_pos (by decide), attributesFrom,
    if_neg (by simp [continuesName_space named]), if_neg (continuesName_apart named rfl),
    if_pos (by simp [opens]), attributesFrom_name continues, attributesFrom, if_pos (Or.inl rfl),
    attributesFrom_value (attribute_free (by decide)), List.nil_append, valueOf_escaped]
  rfl

theorem attributesFrom_all {entries : List (Text × Text)}
    (named : ∀ entry ∈ entries, isName entry.1 = true) (rest : Text) :
    attributesFrom (.gap false) (entries.flatMap writeAttribute ++ rest) =
      (attributesFrom (.gap false) rest).map fun read => (entries ++ read.1, read.2) := by
  induction entries with
  | nil => simp
  | cons entry entries ih =>
      obtain ⟨here, later⟩ := List.forall_mem_cons.mp named
      rw [List.flatMap_cons, List.append_assoc, attributesFrom_written here, ih later,
        Option.map_map]
      rfl

/-! Pieces: a tag and the text behind it. -/

theorem contains_free {part : Text} (mark : c ∈ part) (free : c ∉ t) : Text.contains t part = false := by
  have absent {t : Text} (free : c ∉ t) : part.isPrefixOf t = false := by
    rw [Bool.eq_false_iff]
    intro start
    exact free ((List.isPrefixOf_iff_prefix.mp start).subset mark)
  induction t with
  | nil =>
      cases part with
      | nil => cases mark
      | cons d part => rfl
  | cons d t ih =>
      rw [Text.contains, absent free, ih fun member => free (List.mem_cons_of_mem _ member)]
      rfl

variable {entries : List (Text × Text)}

theorem cutTag_element (named : isName name = true)
    (attributes : ∀ entry ∈ entries, isName entry.1 = true) (behind : Text)
    (plain : ∀ c ∈ behind, c ≠ .char '>' ∧ c ≠ .char '\x22' ∧ c ≠ .char '\x27') (data : Text) :
    cutTag none (name ++ entries.flatMap writeAttribute ++ behind ++ .char '>' :: data) =
      some (name ++ entries.flatMap writeAttribute ++ behind, data) := by
  have ends : cutTag none (.char '>' :: data) = some ([], data) := rfl
  rw [List.append_assoc, List.append_assoc, cutTag_plain (name_plain named), cutTag_all attributes,
    cutTag_plain plain, ends]
  simp

theorem tagOf_element (named : isName name = true)
    (attributes : ∀ entry ∈ entries, isName entry.1 = true) (apart : (entries.map (·.1)).Nodup)
    (behind : Text) {whole : Bool} (ends : attributesFrom (.gap false) behind = some ([], whole))
    (head : ∀ c ∈ behind.head?, continuesName c = false) :
    tagOf (name ++ entries.flatMap writeAttribute ++ behind) = some (.opening name entries whole) := by
  have opens : ∀ rest, name ++ entries.flatMap writeAttribute ++ behind ≠ .char '/' :: rest := by
    obtain ⟨c, more, rfl, first, -⟩ := isName_cons named
    intro rest same
    cases (List.cons.inj same).1
    cases first
  have stops : ∀ c ∈ (entries.flatMap writeAttribute ++ behind).head?, continuesName c = false := by
    cases entries with
    | nil => exact head
    | cons entry entries =>
        intro c first
        cases first
        rfl
  obtain ⟨word, rest⟩ := name_ends named _ stops
  rw [tagOf]
  · rw [List.append_assoc, word, rest, attributesFrom_all attributes, ends]
    simp [named, apart]
  · exact opens

theorem tagOf_closing (named : isName name = true) :
    tagOf (.char '/' :: name) = some (.closing name) := by
  obtain ⟨word, rest⟩ := name_ends named [] (fun _ first => nomatch first)
  rw [List.append_nil] at word rest
  rw [tagOf, word, rest, named]
  rfl

theorem pieceOf_cut {body data value : Text} {tag : Tag} (cut : cutTag none t = some (body, data))
    (read : tagOf body = some tag) (free : .char '>' ∉ data) (resolved : resolve data = some value) :
    pieceOf t = some (tag, textual value) := by
  have closing : Text.contains data "]]>" = false := contains_free (by decide) free
  rw [pieceOf, cut, Option.bind_some]
  simp only [closing, read, resolved]
  rfl

theorem pieceOf_opening (named : isName name = true)
    (attributes : ∀ entry ∈ entries, isName entry.1 = true) (apart : (entries.map (·.1)).Nodup)
    (t : Text) :
    pieceOf (name ++ entries.flatMap writeAttribute ++ .char '>' :: t.flatMap escapeInText) =
      some (.opening name entries false, textual t) := by
  have cut := cutTag_element named attributes [] (List.forall_mem_nil _) (t.flatMap escapeInText)
  have tag := tagOf_element named attributes apart [] rfl (fun _ first => nomatch first)
  rw [List.append_nil] at cut tag
  exact pieceOf_cut cut tag (text_free (Or.inr rfl)) (resolve_flatMap resolve_escapeInText t)

theorem pieceOf_whole (named : isName name = true)
    (attributes : ∀ entry ∈ entries, isName entry.1 = true) (apart : (entries.map (·.1)).Nodup) :
    pieceOf (name ++ entries.flatMap writeAttribute ++ Text.ofString " />") =
      some (.opening name entries true, []) := by
  have cut := cutTag_element named attributes (Text.ofString " /") (by decide) []
  have tag := tagOf_element named attributes apart (Text.ofString " /") rfl
    (by rintro c ⟨⟩; rfl)
  rw [List.append_assoc] at cut
  exact pieceOf_cut cut tag List.not_mem_nil rfl

theorem pieceOf_closing (named : isName name = true) :
    pieceOf (.char '/' :: name ++ [.char '>']) = some (.closing name, []) := by
  have plain : ∀ c ∈ .char '/' :: name, c ≠ .char '>' ∧ c ≠ .char '\x22' ∧ c ≠ .char '\x27' :=
    List.forall_mem_cons.mpr ⟨by decide, name_plain named⟩
  have ends : cutTag none [.char '>'] = some ([], []) := rfl
  have cut : cutTag none (.char '/' :: name ++ [.char '>']) = some (.char '/' :: name, []) := by
    rw [cutTag_plain plain, ends]
    simp
  exact pieceOf_cut cut (tagOf_closing named) List.not_mem_nil rfl

end Xml

end FenceCheck

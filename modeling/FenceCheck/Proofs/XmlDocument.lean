import FenceCheck.Proofs.XmlReading

/-!
Documents as they are written and read. Every element is read back with its name, its attributes, its
text up to line ends and its elements; a document can be read just if all its strings are legal.
-/

namespace FenceCheck

namespace Text

variable {mark : CodePoint} {t : Text}

theorem splitAt_universalNewlines (other : mark ≠ .char '\r') (apart : mark ≠ .char '\n') (t : Text) :
    splitAt mark (universalNewlines t) = (splitAt mark t).map universalNewlines := by
  induction t using universalNewlines.induct with
  | case1 => rfl
  | case2 rest ih =>
      obtain ⟨first, more, pieces⟩ := List.exists_cons_of_ne_nil (splitAt_nonempty mark rest)
      rw [universalNewlines, splitAt, if_neg apart.symm, ih, splitAt, if_neg other.symm, splitAt,
        if_neg apart.symm, pieces]
      simp only [List.map_cons, List.modifyHead_cons, universalNewlines]
  | case3 c rest pair ih =>
      obtain ⟨first, more, pieces⟩ := List.exists_cons_of_ne_nil (splitAt_nonempty mark rest)
      -- The first piece starts as the whole rest does, so no pair of line ends is torn apart.
      have whole : ∀ x, c = .char '\r' → first = .char '\n' :: x → False := by
        rintro x here rfl
        have joined := join_splitAt mark rest
        rw [pieces] at joined
        cases more with
        | nil => exact pair x here joined.symm
        | cons next more =>
            exact pair (x ++ [mark] ++ join [mark] (next :: more)) here joined.symm
      have ends : universalNewlines (c :: first) =
          (if c = .char '\r' then .char '\n' else c) :: universalNewlines first := by
        rw [universalNewlines]
        exact whole
      rw [universalNewlines, splitAt, splitAt, ih]
      · by_cases same : c = mark
        · subst same
          rw [if_neg other, if_pos rfl, if_pos rfl]
          rfl
        · have later : (if c = .char '\r' then .char '\n' else c) ≠ mark := by
            split
            · exact apart.symm
            · exact same
          rw [if_neg later, if_neg same, pieces, List.map_cons, List.modifyHead_cons,
            List.modifyHead_cons, List.map_cons, ends]
      · exact pair

end Text

namespace Xml

/-- A code point is written as itself, or as a name that begins with an ampersand and has no line end. -/
theorem escapeInText_cases (c : CodePoint) : escapeInText c = [c] ∨
    ∃ name, escapeInText c = .char '&' :: name ∧ .char '\r' ∉ name := by
  fun_cases escapeInText c with
  | case1 => exact Or.inr ⟨Text.ofString "amp;", rfl, by decide⟩
  | case2 => exact Or.inr ⟨Text.ofString "lt;", rfl, by decide⟩
  | case3 => exact Or.inr ⟨Text.ofString "gt;", rfl, by decide⟩
  | case4 => exact Or.inl rfl

theorem universalNewlines_escaped (t : Text) :
    Text.universalNewlines (t.flatMap escapeInText) =
      (Text.universalNewlines t).flatMap escapeInText := by
  induction t using Text.universalNewlines.induct with
  | case1 => rfl
  | case2 rest ih =>
      have escaped : (.char '\r' :: .char '\n' :: rest).flatMap escapeInText =
          .char '\r' :: .char '\n' :: rest.flatMap escapeInText := rfl
      rw [escaped, Text.universalNewlines, ih, Text.universalNewlines]
      rfl
  | case3 c rest pair ih =>
      by_cases ret : c = .char '\r'
      · subst ret
        have lone : rest.head? ≠ some (.char '\n') := by
          intro feed
          obtain ⟨more, whole⟩ := List.head?_eq_some_iff.mp feed
          exact pair more rfl whole
        -- No escape begins with a line feed, so the return stays alone.
        have escaped : (rest.flatMap escapeInText).head? ≠ some (.char '\n') := by
          cases rest with
          | nil => exact lone
          | cons d rest =>
              rw [List.flatMap_cons]
              rcases escapeInText_cases d with same | ⟨name, named, -⟩
              · rw [same]
                exact lone
              · rw [named]
                intro feed
                cases feed
        rw [Text.universalNewlines_return lone, List.flatMap_cons, List.flatMap_cons, ← ih]
        exact Text.universalNewlines_return escaped
      · have free : .char '\r' ∉ escapeInText c := by
          rcases escapeInText_cases c with same | ⟨name, named, free⟩
          · rw [same]
            exact fun member => ret (List.mem_singleton.mp member).symm
          · rw [named]
            exact List.not_mem_cons_of_ne_of_not_mem (by decide) free
        rw [Text.universalNewlines_other ret, List.flatMap_cons, List.flatMap_cons,
          Text.universalNewlines_append free, ih]

/-- Names that an element and those in it can have. -/
inductive Named : Element → Prop where
  | mk {name text : Text} {attributes : List (Text × Text)} {children : List Element}
      (named : isName name = true) (keys : ∀ entry ∈ attributes, isName entry.1 = true)
      (apart : (attributes.map (·.1)).Nodup) (inner : ∀ child ∈ children, Named child) :
      Named (.mk name attributes text children)

theorem named_keys {name text : Text} {attributes : List (Text × Text)} {children : List Element}
    (keys : List Text) (same : attributes.map (·.1) = keys)
    (good : isName name = true ∧ (∀ key ∈ keys, isName key = true) ∧ keys.Nodup)
    (inner : ∀ child ∈ children, Named child) : Named (.mk name attributes text children) := by
  subst same
  exact .mk good.1 (List.forall_mem_map.mp good.2.1) good.2.2 inner

mutual

/-- What a reader is to find of an element: all of it, with line feeds for line ends in text. -/
def Element.node : Element → Node
  | .mk name attributes text children =>
      .element name attributes (textual (Text.universalNewlines text) ++ nodes children)

def nodes : List Element → List Node
  | [] => []
  | element :: rest => element.node :: nodes rest

end

theorem writeAll_flatMap (elements : List Element) :
    writeAll elements = elements.flatMap Element.write := by
  induction elements with
  | nil => rfl
  | cons element rest ih => rw [writeAll, ih, List.flatMap_cons]

theorem nodes_map (elements : List Element) : nodes elements = elements.map Element.node := by
  induction elements with
  | nil => rfl
  | cons element rest ih => rw [nodes, ih, List.map_cons]

def Element.behind (element : Element) : Text := element.write.tail

theorem write_behind (element : Element) : element.write = .char '<' :: element.behind := by
  cases element
  rfl

def pieces (element : Element) : List Text := Text.splitAt '<' element.behind

theorem splitAt_all (elements : List Element) (front rest : Text) :
    Text.splitAt '<' (front ++ writeAll elements ++ .char '<' :: rest) =
      Text.splitAt '<' front ++ elements.flatMap pieces ++ Text.splitAt '<' rest := by
  induction elements generalizing front with
  | nil => rw [writeAll, List.append_nil, Text.splitAt_append, List.flatMap_nil, List.append_nil]
  | cons element elements ih =>
      have cut := ih element.behind
      rw [List.append_assoc] at cut
      rw [writeAll, write_behind, List.append_assoc, List.append_assoc, List.cons_append,
        Text.splitAt_append, cut, List.flatMap_cons, pieces, List.append_assoc, List.append_assoc,
        List.append_assoc]

theorem opened_free {name : Text} {attributes : List (Text × Text)} (named : isName name = true)
    (keys : ∀ entry ∈ attributes, isName entry.1 = true) (mark : CodePoint)
    (marks : mark ∈ [.char '<', .char '\r']) : mark ∉ name ++ attributes.flatMap writeAttribute := by
  have kept : mark ∈ attributeMarks ∧ continuesName mark = false ∧
      mark ∉ [.char ' ', .char '=', .char '\x22'] := by
    rcases List.mem_cons.mp marks with rfl | ret
    · decide
    · cases List.mem_singleton.mp ret
      decide
  obtain ⟨escaped, other, apart⟩ := kept
  have unnamed {word : Text} (named : isName word = true) : mark ∉ word := fun member =>
    continuesName_apart (isName_continues named mark member) other rfl
  intro member
  rcases List.mem_append.mp member with inside | inside
  · exact unnamed named inside
  · obtain ⟨entry, here, written⟩ := List.mem_flatMap.mp inside
    have parts : writeAttribute entry = [.char ' '] ++ (entry.1 ++ ([.char '=', .char '\x22'] ++
        (entry.2.flatMap escapeInAttribute ++ [.char '\x22']))) := by
      simp [writeAttribute, Text.ofString, Text.ofChars]
    simp only [parts, List.mem_append] at written
    rcases written with space | key | equals | value | quote
    · exact apart (by simp_all)
    · exact unnamed (keys entry here) key
    · exact apart (List.mem_cons_of_mem _ equals)
    · exact attribute_free escaped value
    · exact apart (List.mem_cons_of_mem _ (List.mem_cons_of_mem _ quote))

variable {element : Element}

theorem readPiece_of (stack : List Frame) {next : List Frame} {t : Text} {tag : Tag} {data : List Node}
    (cut : pieceOf t = some (tag, data)) (stepped : step stack (tag, data) = some next) :
    readPiece stack t = some next := by
  rw [readPiece, cut]
  exact stepped

theorem read_all {elements : List Element} {outer : List Frame}
    (each : ∀ element ∈ elements, ∀ frame outer,
      ((pieces element).map Text.universalNewlines).foldlM readPiece (frame :: outer) =
        some (frame.add [element.node] :: outer)) (frame : Frame) :
    ((elements.flatMap pieces).map Text.universalNewlines).foldlM readPiece (frame :: outer) =
      some (frame.add (nodes elements) :: outer) := by
  induction elements generalizing frame with
  | nil =>
      rw [nodes, Frame.add, List.append_nil]
      rfl
  | cons element elements ih =>
      obtain ⟨here, later⟩ := List.forall_mem_cons.mp each
      rw [List.flatMap_cons, List.map_append, List.foldlM_append, here frame outer,
        Option.bind_eq_bind, Option.bind_some, ih later, nodes]
      simp [Frame.add]

theorem universalNewlines_free {t : Text} (free : .char '\r' ∉ t) : Text.universalNewlines t = t := by
  have kept := Text.universalNewlines_append free []
  rwa [List.append_nil, Text.universalNewlines, List.append_nil] at kept

theorem pieces_mk {name text : Text} {attributes : List (Text × Text)} {children : List Element}
    (named : isName name = true) (keys : ∀ entry ∈ attributes, isName entry.1 = true) :
    (pieces (.mk name attributes text children)).map Text.universalNewlines =
      if text.isEmpty && children.isEmpty then
        [name ++ attributes.flatMap writeAttribute ++ Text.ofString " />"]
      else
        (name ++ attributes.flatMap writeAttribute ++
            .char '>' :: (Text.universalNewlines text).flatMap escapeInText) ::
          (children.flatMap pieces).map Text.universalNewlines ++
            [.char '/' :: name ++ [.char '>']] := by
  have closed := opened_free named keys (.char '<') (by decide)
  have kept := opened_free named keys (.char '\r') (by decide)
  split
  case isTrue bare =>
      have behind : (Element.mk name attributes text children).behind =
          name ++ attributes.flatMap writeAttribute ++ Text.ofString " />" := by
        rw [Element.behind, Element.write, if_pos bare]
        rfl
      have free {mark : CodePoint} (start : mark ∉ name ++ attributes.flatMap writeAttribute)
          (other : mark ∉ Text.ofString " />") :
          mark ∉ name ++ attributes.flatMap writeAttribute ++ Text.ofString " />" :=
        fun member => (List.mem_append.mp member).elim start other
      rw [pieces, behind, Text.splitAt_whole (free closed (by decide)), List.map_singleton,
        universalNewlines_free (free kept (by decide))]
  case isFalse filled =>
      have behind : (Element.mk name attributes text children).behind =
          (name ++ attributes.flatMap writeAttribute ++ .char '>' :: text.flatMap escapeInText) ++
            writeAll children ++ .char '<' :: (.char '/' :: name ++ [.char '>']) := by
        rw [Element.behind, Element.write, if_neg filled]
        simp [Text.ofString, Text.ofChars]
      -- A text that is cut at this mark is cut in front of its tags alone.
      have closed : .char '<' ∉
          name ++ attributes.flatMap writeAttribute ++ .char '>' :: text.flatMap escapeInText := by
        intro member
        rcases List.mem_append.mp member with start | data
        · exact closed start
        · exact (List.mem_cons.mp data).elim (by decide) (text_free (Or.inl rfl))
      have named_free {mark : CodePoint} (other : continuesName mark = false)
          (apart : mark ∉ [.char '/', .char '>']) : mark ∉ .char '/' :: name ++ [.char '>'] := by
        intro member
        rcases List.mem_append.mp member with start | last
        · rcases List.mem_cons.mp start with rfl | letter
          · exact apart List.mem_cons_self
          · exact continuesName_apart (isName_continues named mark letter) other rfl
        · exact apart (List.mem_cons_of_mem _ last)
      rw [pieces, behind, splitAt_all, Text.splitAt_whole closed,
        Text.splitAt_whole (named_free rfl (by decide)), List.map_append, List.map_append,
        List.map_singleton, List.map_singleton, Text.universalNewlines_append kept,
        Text.universalNewlines_other (by decide), universalNewlines_escaped,
        universalNewlines_free (named_free rfl (by decide)), List.singleton_append]

theorem read_pieces (named : Named element) : ∀ frame outer,
    ((pieces element).map Text.universalNewlines).foldlM readPiece (frame :: outer) =
      some (frame.add [element.node] :: outer) := by
  induction named with
  | @mk name text attributes children named keys apart inner ih =>
      intro frame outer
      rw [pieces_mk named keys]
      split
      case isTrue bare =>
          obtain ⟨none, leaf⟩ := Bool.and_eq_true_iff.mp bare
          cases List.isEmpty_iff.mp none
          cases List.isEmpty_iff.mp leaf
          have whole := readPiece_of (frame :: outer) (pieceOf_whole named keys apart) rfl
          rw [List.foldlM_cons, whole]
          rfl
      case isFalse filled =>
          have first := readPiece_of (frame :: outer)
            (pieceOf_opening named keys apart (Text.universalNewlines text)) rfl
          -- The closing tag meets the frame that the opening one put on top.
          have last : step (Frame.add ⟨name, attributes, textual (Text.universalNewlines text)⟩
              (nodes children) :: frame :: outer) (.closing name, []) =
              some (frame.add [(Element.mk name attributes text children).node] :: outer) :=
            if_pos rfl
          rw [List.cons_append, List.foldlM_cons, first, Option.bind_eq_bind, Option.bind_some,
            List.foldlM_append, read_all ih, Option.bind_eq_bind, Option.bind_some,
            List.foldlM_cons, readPiece_of _ (pieceOf_closing named) last]
          rfl

theorem read_write (named : Named element) (legal : ∀ c ∈ element.write, isLegal c = true) :
    read element.write = some element.node := by
  have all : element.write.all isLegal = true := List.all_eq_true.mpr legal
  have cut : Text.splitAt '<' (Text.universalNewlines element.write) =
      [] :: (pieces element).map Text.universalNewlines := by
    rw [Text.splitAt_universalNewlines (by decide) (by decide), write_behind, Text.splitAt, if_pos rfl]
    rfl
  have root : rootOf [Frame.add ⟨[], [], []⟩ [element.node]] = some element.node := by
    cases element
    rfl
  rw [read, if_pos all, cut]
  simp only [List.all_nil, if_true, read_pieces named ⟨[], [], []⟩ [], Option.bind_some]
  exact root

theorem read_illegal {t : Text} (illegal : ¬ ∀ c ∈ t, isLegal c = true) : read t = none := by
  rw [read, if_neg (mt List.all_eq_true.mp illegal)]

/-! Legal documents. -/

mutual

/-- The strings in an element: the values of its attributes, its text and those in its elements. -/
def Element.strings : Element → List Text
  | .mk _ attributes text children => attributes.map (·.2) ++ text :: stringsOf children

def stringsOf : List Element → List Text
  | [] => []
  | element :: rest => element.strings ++ stringsOf rest

end

theorem stringsOf_flatMap (elements : List Element) :
    stringsOf elements = elements.flatMap Element.strings := by
  induction elements with
  | nil => rfl
  | cons element rest ih => rw [stringsOf, ih, List.flatMap_cons]

def Legal (t : Text) : Prop := ∀ c ∈ t, isLegal c = true

instance (t : Text) : Decidable (Legal t) := List.decidableBAll _ t

theorem legal_append {s t : Text} : Legal (s ++ t) ↔ Legal s ∧ Legal t := List.forall_mem_append

theorem legal_cons {c : CodePoint} {t : Text} : Legal (c :: t) ↔ isLegal c = true ∧ Legal t :=
  List.forall_mem_cons

theorem legal_flatMap {α : Type} {items : List α} {write : α → Text} :
    Legal (items.flatMap write) ↔ ∀ item ∈ items, Legal (write item) := by
  simp only [Legal, List.mem_flatMap]
  grind

theorem legal_escapeInText (c : CodePoint) : Legal (escapeInText c) ↔ isLegal c = true := by
  unfold escapeInText
  split
  case h_1 => decide
  case h_2 => decide
  case h_3 => decide
  case h_4 => exact List.forall_mem_singleton

theorem legal_escapeInAttribute (c : CodePoint) : Legal (escapeInAttribute c) ↔ isLegal c = true := by
  unfold escapeInAttribute
  split
  case h_1 => decide
  case h_2 => decide
  case h_3 => decide
  case h_4 => decide
  case h_5 => exact legal_escapeInText c

theorem legal_name {name : Text} (named : isName name = true) : Legal name :=
  fun c member => continuesName_legal (isName_continues named c member)

theorem legal_attribute {entry : Text × Text} (named : isName entry.1 = true) :
    Legal (writeAttribute entry) ↔ Legal entry.2 := by
  have key := legal_name named
  have marks : isLegal (.char ' ') = true ∧ Legal (Text.ofString "=\x22") ∧ Legal [.char '\x22'] := by
    decide
  rw [writeAttribute, legal_append, legal_append, List.cons_append, legal_cons, legal_append,
    legal_flatMap]
  simp only [legal_escapeInAttribute, key, marks, true_and, and_true]
  exact Iff.rfl

theorem legal_strings {name text : Text} {attributes : List (Text × Text)} {children : List Element} :
    (∀ t ∈ (Element.mk name attributes text children).strings, Legal t) ↔
      (∀ entry ∈ attributes, Legal entry.2) ∧ Legal text ∧
        ∀ child ∈ children, ∀ t ∈ child.strings, Legal t := by
  rw [Element.strings, stringsOf_flatMap, List.forall_mem_append, List.forall_mem_cons,
    List.forall_mem_map]
  simp only [List.mem_flatMap]
  grind

theorem legal_write (named : Named element) :
    Legal element.write ↔ ∀ t ∈ element.strings, Legal t := by
  induction named with
  | @mk name text attributes children named keys apart inner ih =>
      have key := legal_name named
      have values : (∀ entry ∈ attributes, Legal (writeAttribute entry)) ↔
          ∀ entry ∈ attributes, Legal entry.2 :=
        forall₂_congr fun entry member => legal_attribute (keys entry member)
      have below : (∀ child ∈ children, Legal child.write) ↔
          ∀ child ∈ children, ∀ t ∈ child.strings, Legal t := forall₂_congr ih
      have opened : Legal (.char '<' :: name ++ attributes.flatMap writeAttribute) ↔
          ∀ entry ∈ attributes, Legal entry.2 := by
        have bracket : isLegal (.char '<') = true := by decide
        rw [legal_append, legal_cons, legal_flatMap, values]
        exact and_iff_right ⟨bracket, key⟩
      rw [legal_strings, Element.write, legal_append, opened]
      refine and_congr_right fun _ => ?_
      split
      case isTrue bare =>
          obtain ⟨none, leaf⟩ := Bool.and_eq_true_iff.mp bare
          cases List.isEmpty_iff.mp none
          cases List.isEmpty_iff.mp leaf
          exact iff_of_true (by decide) ⟨List.forall_mem_nil _, List.forall_mem_nil _⟩
      case isFalse filled =>
          have marks : isLegal (.char '>') = true ∧ Legal (Text.ofString "</") ∧ Legal [.char '>'] := by
            decide
          rw [legal_append, legal_append, legal_append, legal_append, legal_cons, legal_flatMap,
            writeAll_flatMap, legal_flatMap, below]
          simp only [legal_escapeInText, marks, key, true_and, and_true]
          exact Iff.rfl

end Xml

end FenceCheck

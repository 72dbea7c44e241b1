import FenceCheck.Proofs.JsonNumber
import FenceCheck.Proofs.JsonObject
import FenceCheck.Proofs.JsonOrder
import FenceCheck.Proofs.NumberText

/-!
Written JSON is read back, on one line or spread over several. The reader finds the fields of an object
in the order in which they were written, that of their names.
-/

namespace FenceCheck

namespace Json

mutual

/-- The value with the fields of all its objects in the order of their names. -/
def inOrder : Json → Json
  | list items => list (inOrderItems items)
  | object fields => object (sortedByName (inOrderFields fields))
  | value => value

def inOrderItems : List Json → List Json
  | [] => []
  | item :: rest => inOrder item :: inOrderItems rest

def inOrderFields : List (Text × Json) → List (Text × Json)
  | [] => []
  | field :: rest => (field.1, inOrder field.2) :: inOrderFields rest

end

theorem inOrderItems_map (items : List Json) : inOrderItems items = items.map inOrder := by
  induction items with
  | nil => rfl
  | cons item rest ih => rw [inOrderItems, ih, List.map_cons]

theorem inOrderFields_map (fields : Fields) :
    inOrderFields fields = fields.map fun field => (field.1, field.2.inOrder) := by
  induction fields with
  | nil => rfl
  | cons field rest ih => rw [inOrderFields, ih, List.map_cons]

theorem inOrder_object (fields : Fields) :
    (object fields).inOrder =
      .object ((sortedByName fields).map fun field => (field.1, field.2.inOrder)) := by
  rw [inOrder, inOrderFields_map, sortedByName_map]

/-- A string that is read back as it was written. -/
def Clear (ascii : Bool) (s : Text) : Prop :=
  ∀ opening rest, stringBody opening (s.flatMap (escape ascii) ++ .char '\x22' :: rest) = .ok (s, rest)

/-- A value that is read back where so many containers may stand in one another: its strings are clear,
its integers have no more digits than a reader takes, and the fields of an object have names of their
own. -/
inductive Legible (ascii : Bool) : Nat → Json → Prop where
  | null (room : Nat) : Legible ascii room .null
  | bool (room : Nat) (b : Bool) : Legible ascii room (.bool b)
  | int (room : Nat) {n : Int} (short : n.natAbs < tenTo Integer.digitLimit) :
      Legible ascii room (.int n)
  | float (room : Nat) {x : Binary64} (known : x.value = .notANumber → x = .notANumber) :
      Legible ascii room (.float x)
  | str (room : Nat) {s : Text} (clear : Clear ascii s) : Legible ascii room (.str s)
  | list {room : Nat} {items : List Json} (each : ∀ item ∈ items, Legible ascii room item) :
      Legible ascii (room + 1) (.list items)
  | object {room : Nat} {fields : Fields} (apart : Apart fields)
      (names : ∀ field ∈ fields, Clear ascii field.1)
      (each : ∀ field ∈ fields, Legible ascii room field.2) :
      Legible ascii (room + 1) (.object fields)

theorem escape_spelling (c : CodePoint) :
    ∃ part, Spelling c (escape false c) part ∧
      (part = .plain c ∨ part = .unit c.val ∧ c.val < 0x20) := by
  unfold escape
  split
  case h_8 quote backslash _ _ _ _ _ =>
      by_cases control : c.val < 0x20
      · rw [if_pos control]
        exact ⟨_, .unit (by omega), Or.inr ⟨rfl, control⟩⟩
      · rw [if_neg control, if_neg (by simp)]
        exact ⟨_, .raw (Nat.not_lt.mp control) quote backslash, Or.inl rfl⟩
  all_goals exact ⟨_, .short rfl (by decide), Or.inl rfl⟩

theorem clear_unicode (s : Text) : Clear false s := by
  intro opening rest
  suffices read : ∃ parts, stringParts opening (s.flatMap (escape false) ++ .char '\x22' :: rest) =
      .ok (parts, rest) ∧ joinParts none parts = s by
    obtain ⟨parts, read, joined⟩ := read
    rw [stringBody, read]
    simp only [joined]
  induction s with
  | nil => exact ⟨[], rfl, rfl⟩
  | cons c s ih =>
      obtain ⟨parts, read, joined⟩ := ih
      obtain ⟨part, spelling, plain⟩ := escape_spelling c
      refine ⟨part :: parts, ?_, ?_⟩
      · rw [List.flatMap_cons, List.append_assoc, stringParts_spelling spelling opening (by simp), read]
        rfl
      · rcases plain with rfl | ⟨rfl, control⟩
        · rw [joinParts, joined]
        · have half : isHighSurrogate c.val = false := by
            rw [isHighSurrogate, Bool.and_eq_false_iff, decide_eq_false_iff_not]
            omega
          rw [joinParts, half, joined, ofUnit_val]
          rfl

/-! How written values begin and what stands between them. -/

theorem skipSpace_spaces {spaces : Text} (blank : ∀ c ∈ spaces, isSpace c = true) (t : Text) :
    skipSpace (spaces ++ t) = skipSpace t :=
  List.dropWhile_append_of_pos blank

theorem skipSpace_cons {c : CodePoint} (visible : isSpace c = false) (t : Text) :
    skipSpace (c :: t) = c :: t := by
  rw [skipSpace, List.dropWhile_cons, visible]
  rfl

variable {layout : Layout} {level room : Nat} {rest : Text}

theorem lineBreak_spaces (layout : Layout) (level : Nat) :
    ∀ c ∈ layout.lineBreak level, isSpace c = true := by
  unfold Layout.lineBreak
  split
  · exact List.forall_mem_nil _
  · refine List.forall_mem_cons.mpr ⟨rfl, fun c member => ?_⟩
    rw [List.eq_of_mem_replicate member]
    rfl

theorem separator_comma (layout : Layout) (level : Nat) :
    ∃ spaces, layout.separator level = .char ',' :: spaces ∧ ∀ c ∈ spaces, isSpace c = true := by
  unfold Layout.separator
  split
  · exact ⟨[.char ' '], rfl, List.forall_mem_singleton.mpr rfl⟩
  · exact ⟨_, rfl, lineBreak_spaces layout level⟩

/-- Whether a value can begin with a mark. -/
def begins (c : CodePoint) : Bool :=
  !isSpace c && c ≠ .char ']' && c ≠ .char '\x7d' && c ≠ .char '\uFEFF'

def beginsAtom (c : CodePoint) : Bool :=
  begins c && c ≠ .char '\x22' && c ≠ .char '[' && c ≠ .char '\x7b'

theorem begins_visible {c : CodePoint} (first : begins c = true) : isSpace c = false := by
  simp only [begins, Bool.and_eq_true, Bool.not_eq_true'] at first
  exact first.1.1.1

theorem begins_open {c : CodePoint} (first : begins c = true) : c ≠ .char ']' := by
  simp only [begins, Bool.and_eq_true, decide_eq_true_iff] at first
  exact first.1.1.2

theorem begins_unmarked {c : CodePoint} (first : begins c = true) : c ≠ .char '\uFEFF' := by
  simp only [begins, Bool.and_eq_true, decide_eq_true_iff] at first
  exact first.2

theorem beginsAtom_begins {c : CodePoint} (first : beginsAtom c = true) : begins c = true := by
  simp only [beginsAtom, Bool.and_eq_true] at first
  exact first.1.1.1

theorem numeral_begins {n : Numeral} (proper : n.Proper) (written : Number.Written n.text) :
    ∃ c rest, n.text = c :: rest ∧ beginsAtom c = true := by
  have all : (Text.ofChars Number.alphabet).all beginsAtom = true := by decide
  cases text : n.text with
  | nil =>
      obtain ⟨c, t, -, here | behind⟩ := text_digit proper []
      · rw [text] at here
        cases here
      · rw [text] at behind
        cases behind
  | cons c rest =>
      exact ⟨c, rest, rfl, List.all_eq_true.mp all c (written c (text ▸ List.mem_cons_self))⟩

theorem int_begins (n : Int) : ∃ c rest, Text.ofInt n = c :: rest ∧ beginsAtom c = true :=
  wholeNumeral_text n ▸
    numeral_begins (wholeNumeral_proper n) (wholeNumeral_text n ▸ Number.written_ofInt n)

theorem float_begins (x : Binary64) : ∃ c rest, floatText x = c :: rest ∧ beginsAtom c = true := by
  rw [floatText]
  cases value : x.value with
  | notANumber => exact ⟨_, _, rfl, by decide⟩
  | infinite negative => cases negative <;> exact ⟨_, _, rfl, by decide⟩
  | finite negative significand exponent =>
      obtain ⟨n, proper, text, -⟩ := toText_numeral value
      exact text ▸ numeral_begins proper (text ▸ Number.written_binary x)

theorem enclose_begins (layout : Layout) (level : Nat) (opening closing : Char) (parts : List Text) :
    ∃ rest, layout.enclose level opening closing parts = .char opening :: rest := by
  cases parts with
  | nil => exact ⟨_, rfl⟩
  | cons => exact ⟨_, rfl⟩

theorem writeAt_begins (layout : Layout) (level : Nat) (value : Json) :
    ∃ c rest, writeAt layout level value = c :: rest ∧ begins c = true := by
  cases value with
  | null => exact ⟨_, _, rfl, by decide⟩
  | bool b => cases b <;> exact ⟨_, _, rfl, by decide⟩
  | int n =>
      obtain ⟨c, rest, text, first⟩ := int_begins n
      exact ⟨c, rest, text, beginsAtom_begins first⟩
  | float x =>
      obtain ⟨c, rest, text, first⟩ := float_begins x
      exact ⟨c, rest, text, beginsAtom_begins first⟩
  | str s => exact ⟨_, _, rfl, by decide⟩
  | list items =>
      obtain ⟨rest, written⟩ := enclose_begins layout level '[' ']' (writeItems layout (level + 1) items)
      exact ⟨_, rest, written, by decide⟩
  | object fields =>
      obtain ⟨rest, written⟩ := enclose_begins layout level '\x7b' '\x7d' _
      exact ⟨_, rest, written, by decide⟩

theorem skipSpace_writeAt (layout : Layout) (level : Nat) (value : Json) (rest : Text) :
    skipSpace (writeAt layout level value ++ rest) = writeAt layout level value ++ rest := by
  obtain ⟨c, more, written, first⟩ := writeAt_begins layout level value
  rw [written, List.cons_append, skipSpace_cons (begins_visible first)]

theorem stops_mark {c : CodePoint} (mark : isDigit c = false ∧ c ≠ .char '.' ∧ c ≠ .char 'e' ∧
    c ≠ .char 'E') (t : Text) : Stops (c :: t) := by
  intro other here
  cases here
  exact mark

theorem stops_spaces {spaces : Text} (blank : ∀ c ∈ spaces, isSpace c = true) {t : Text}
    (stops : Stops t) : Stops (spaces ++ t) := by
  cases spaces with
  | nil => exact stops
  | cons c spaces =>
      refine stops_mark ?_ _
      have space := blank c List.mem_cons_self
      simp only [isSpace, Bool.or_eq_true, decide_eq_true_iff] at space
      rcases space with ((rfl | rfl) | rfl) | rfl <;> exact ⟨rfl, by decide, by decide, by decide⟩

/-! Values are read back from the inside out. -/

/-- A value is read from its text as another one, whatever follows that no number goes on with. -/
def ReadsAs (layout : Layout) (room : Nat) (value shown : Json) : Prop :=
  ∀ level fuel rest, Stops rest → (writeAt layout level value).length ≤ fuel →
    readValue room fuel (writeAt layout level value ++ rest) = .ok (shown, rest)

def itemsText (layout : Layout) (level : Nat) (items : List Json) : Text :=
  Text.join (layout.separator level) (items.map (writeAt layout level))

theorem itemsText_cons (layout : Layout) (level : Nat) (item next : Json) (items : List Json) :
    itemsText layout level (item :: next :: items) =
      writeAt layout level item ++ (layout.separator level ++ itemsText layout level (next :: items)) :=
  List.append_assoc _ _ _

theorem itemsText_begins (layout : Layout) (level : Nat) (item : Json) (items : List Json) :
    ∃ c more, itemsText layout level (item :: items) = c :: more ∧ begins c = true := by
  obtain ⟨c, more, text, first⟩ := writeAt_begins layout level item
  cases items with
  | nil => exact ⟨c, more, text, first⟩
  | cons next items => exact ⟨c, _, by rw [itemsText_cons, text, List.cons_append], first⟩

theorem skipSpace_itemsText (layout : Layout) (level : Nat) (item : Json) (items : List Json)
    (rest : Text) : skipSpace (itemsText layout level (item :: items) ++ rest) =
      itemsText layout level (item :: items) ++ rest := by
  obtain ⟨c, more, text, first⟩ := itemsText_begins layout level item items
  rw [text, List.cons_append, skipSpace_cons (begins_visible first)]

theorem readItems_written {item : Json} {items : List Json}
    (each : ∀ value ∈ item :: items, ReadsAs layout room value value.inOrder) {fuel : Nat}
    {spaces : Text} (blank : ∀ c ∈ spaces, isSpace c = true)
    (enough : (itemsText layout level (item :: items)).length < fuel) :
    readItems room fuel (itemsText layout level (item :: items) ++ (spaces ++ .char ']' :: rest)) =
      .ok ((item :: items).map inOrder, rest) := by
  -- An empty list is written in another way, so the induction is over the items behind the first.
  obtain ⟨gap, comma, blanks⟩ := separator_comma layout level
  induction items generalizing item fuel with
  | nil =>
      obtain ⟨fuel, rfl⟩ : ∃ less, fuel = less + 1 := ⟨fuel - 1, by omega⟩
      have here := each item List.mem_cons_self level fuel (spaces ++ .char ']' :: rest)
        (stops_spaces blank (stops_mark (by decide) rest)) (Nat.le_of_lt_succ enough)
      change readItems room (fuel + 1) (writeAt layout level item ++ _) = _
      rw [readItems, here]
      simp only [skipSpace_spaces blank]
      rw [skipSpace_cons rfl]
      rfl
  | cons next items ih =>
      obtain ⟨first, later⟩ := List.forall_mem_cons.mp each
      rw [itemsText_cons, comma, List.length_append, List.cons_append, List.length_cons,
        List.length_append] at enough
      obtain ⟨fuel, rfl⟩ : ∃ less, fuel = less + 1 := ⟨fuel - 1, by omega⟩
      have here := first level fuel
        (.char ',' :: (gap ++ (itemsText layout level (next :: items) ++ (spaces ++ .char ']' :: rest))))
        (stops_mark (by decide) _) (by omega)
      rw [itemsText_cons, comma, List.append_assoc, List.cons_append, List.cons_append,
        List.append_assoc, readItems, here]
      simp only
      rw [skipSpace_cons rfl]
      have follows := @ih next later fuel (by omega)
      simp only [skipSpace_spaces blanks, skipSpace_itemsText, follows]
      rfl

def fieldText (layout : Layout) (level : Nat) (field : Text × Json) : Text :=
  quoted layout.ascii field.1 ++ .char ':' :: .char ' ' :: writeAt layout level field.2

def fieldsText (layout : Layout) (level : Nat) (fields : Fields) : Text :=
  Text.join (layout.separator level) (fields.map (fieldText layout level))

theorem fieldsText_cons (layout : Layout) (level : Nat) (field next : Text × Json) (fields : Fields) :
    fieldsText layout level (field :: next :: fields) =
      fieldText layout level field ++
        (layout.separator level ++ fieldsText layout level (next :: fields)) :=
  List.append_assoc _ _ _

theorem skipSpace_fieldsText (layout : Layout) (level : Nat) (field : Text × Json) (fields : Fields)
    (rest : Text) : skipSpace (fieldsText layout level (field :: fields) ++ rest) =
      fieldsText layout level (field :: fields) ++ rest := by
  cases fields <;> exact skipSpace_cons rfl _

theorem readMembers_field {field : Text × Json} (clear : Clear layout.ascii field.1) {fuel : Nat}
    {shown : Json} (reads : ReadsAs layout room field.2 shown) (stops : Stops rest)
    (enough : (fieldText layout level field).length ≤ fuel) :
    readMembers room (fuel + 1) (fieldText layout level field ++ rest) =
      match skipSpace rest with
      | .char '\x7d' :: rest => .ok ([(field.1, shown)], rest)
      | .char ',' :: rest =>
          match readMembers room fuel (skipSpace rest) with
          | .ok (members, rest) => .ok ((field.1, shown) :: members, rest)
          | .error fault => .error fault
      | rest => .error ⟨.expectedComma, rest.length⟩ := by
  have value := reads level fuel rest stops (by
    simp only [fieldText, List.length_append, List.length_cons] at enough
    omega)
  have written : fieldText layout level field ++ rest =
      .char '\x22' :: (field.1.flatMap (escape layout.ascii) ++ .char '\x22' ::
        .char ':' :: .char ' ' :: (writeAt layout level field.2 ++ rest)) := by
    simp [fieldText, quoted]
  rw [written, readMembers, clear]
  simp only
  rw [skipSpace_cons rfl]
  simp only
  have space : skipSpace (.char ' ' :: (writeAt layout level field.2 ++ rest)) =
      writeAt layout level field.2 ++ rest := skipSpace_writeAt layout level field.2 rest
  rw [space]
  generalize readValue room fuel (writeAt layout level field.2 ++ rest) = result at value ⊢
  subst value
  rfl

theorem readMembers_written {field : Text × Json} {fields : Fields}
    (names : ∀ entry ∈ field :: fields, Clear layout.ascii entry.1)
    (each : ∀ entry ∈ field :: fields, ReadsAs layout room entry.2 entry.2.inOrder) {fuel : Nat}
    {spaces : Text} (blank : ∀ c ∈ spaces, isSpace c = true)
    (enough : (fieldsText layout level (field :: fields)).length < fuel) :
    readMembers room fuel
        (fieldsText layout level (field :: fields) ++ (spaces ++ .char '\x7d' :: rest)) =
      .ok ((field :: fields).map fun entry => (entry.1, entry.2.inOrder), rest) := by
  obtain ⟨gap, comma, blanks⟩ := separator_comma layout level
  induction fields generalizing field fuel with
  | nil =>
      obtain ⟨fuel, rfl⟩ : ∃ less, fuel = less + 1 := ⟨fuel - 1, by omega⟩
      change readMembers room (fuel + 1) (fieldText layout level field ++ _) = _
      rw [readMembers_field (names field List.mem_cons_self) (each field List.mem_cons_self)
        (stops_spaces blank (stops_mark (by decide) rest)) (Nat.le_of_lt_succ enough),
        skipSpace_spaces blank, skipSpace_cons rfl]
      rfl
  | cons next fields ih =>
      obtain ⟨clear, others⟩ := List.forall_mem_cons.mp names
      obtain ⟨first, later⟩ := List.forall_mem_cons.mp each
      rw [fieldsText_cons, comma, List.length_append, List.cons_append, List.length_cons,
        List.length_append] at enough
      obtain ⟨fuel, rfl⟩ : ∃ less, fuel = less + 1 := ⟨fuel - 1, by omega⟩
      rw [fieldsText_cons, comma, List.append_assoc, List.cons_append, List.cons_append,
        List.append_assoc, readMembers_field clear first (stops_mark (by decide) _) (by omega),
        skipSpace_cons rfl]
      have follows := @ih next others later fuel (by omega)
      simp only [skipSpace_spaces blanks, skipSpace_fieldsText, follows]
      rfl

/-! The fields of an object are the members it was written with, as their names differ. -/

theorem put_new {fields : Fields} {name : Text} (new : name ∉ fields.map (·.1)) (value : Json) :
    fields.put name value = fields ++ [(name, value)] := by
  induction fields with
  | nil => rfl
  | cons field fields ih =>
      rw [List.map_cons, List.mem_cons, not_or] at new
      obtain ⟨other, new⟩ := new
      rw [Fields.put, if_neg (Ne.symm other), ih new, List.cons_append]

theorem ofMembers_apart {fields : Fields} (apart : Apart fields) : Fields.ofMembers fields = fields := by
  suffices rest : ∀ members before : Fields, Apart (before ++ members) →
      members.foldl (fun fields member => fields.put member.1 member.2) before = before ++ members from
    rest fields [] apart
  intro members
  induction members with
  | nil => exact fun before _ => (List.append_nil before).symm
  | cons member members ih =>
      intro before apart
      have new : member.1 ∉ before.map (·.1) := by
        rw [Apart, List.map_append, List.map_cons, List.nodup_middle, List.nodup_cons,
          List.mem_append, not_or] at apart
        exact apart.1.1
      rw [List.foldl_cons, put_new new, ih _ (by rwa [List.append_assoc]), List.append_assoc]
      rfl

theorem Apart.inOrder {fields : Fields} (apart : Apart fields) :
    Apart ((sortedByName fields).map fun field => (field.1, field.2.inOrder)) := by
  rw [Apart, List.map_map]
  exact (apart.perm (sortedByName_perm fields).symm :)

theorem readValue_atom {c : CodePoint} (first : beginsAtom c = true) (room fuel : Nat) (t : Text) :
    readValue room (fuel + 1) (c :: t) = readAtom (c :: t) := by
  simp only [beginsAtom, Bool.and_eq_true, decide_eq_true_iff] at first
  obtain ⟨⟨⟨-, quote⟩, bracket⟩, brace⟩ := first
  unfold readValue
  split
  case h_1 same => exact absurd (List.cons.inj same).1 quote
  case h_2 same => exact absurd (List.cons.inj same).1 bracket
  case h_3 same => exact absurd (List.cons.inj same).1 brace
  case h_4 => rfl

theorem readValue_bracket {t inner : Text} (spaces : skipSpace t = inner)
    (opened : inner.head? ≠ some (.char ']')) (room fuel : Nat) :
    readValue (room + 1) (fuel + 1) (.char '[' :: t) =
      (readItems room fuel inner).map fun found => (.list found.1, found.2) := by
  rw [readValue, if_neg (Nat.succ_ne_zero room), spaces, Nat.add_sub_cancel]
  split
  case h_1 closed => exact absurd rfl opened
  case h_2 => cases readItems room fuel inner <;> rfl

theorem writeAt_items (layout : Layout) (level : Nat) (item : Json) (items : List Json) :
    writeAt layout level (.list (item :: items)) =
      .char '[' :: (layout.lineBreak (level + 1) ++ (itemsText layout (level + 1) (item :: items) ++
        (layout.lineBreak level ++ [.char ']']))) := by
  rw [writeAt, writeItems_map]
  simp [Layout.enclose, itemsText]

theorem writeAt_fields {fields more : Fields} {field : Text × Json}
    (sorted : sortedByName fields = field :: more) (layout : Layout) (level : Nat) :
    writeAt layout level (.object fields) =
      .char '\x7b' :: (layout.lineBreak (level + 1) ++
        (fieldsText layout (level + 1) (field :: more) ++
          (layout.lineBreak level ++ [.char '\x7d']))) := by
  have written : (sortedByName (writeFields layout (level + 1) fields)).map (fun field =>
      quoted layout.ascii field.1 ++ Text.ofString ": " ++ field.2) =
      (field :: more).map (fieldText layout (level + 1)) := by
    rw [writeFields_map, sortedByName_map, sorted, List.map_map]
    exact List.map_congr_left fun _ _ => List.append_assoc _ _ _
  rw [writeAt, written]
  simp [Layout.enclose, fieldsText]

theorem writeAt_pos (layout : Layout) (level : Nat) (value : Json) :
    0 < (writeAt layout level value).length := by
  obtain ⟨c, more, text, -⟩ := writeAt_begins layout level value
  rw [text]
  exact Nat.succ_pos _

theorem readsAs_step {value shown : Json}
    (read : ∀ level fuel rest, Stops rest → (writeAt layout level value).length ≤ fuel + 1 →
      readValue room (fuel + 1) (writeAt layout level value ++ rest) = .ok (shown, rest)) :
    ReadsAs layout room value shown := by
  intro level fuel rest stops enough
  cases fuel with
  | zero => exact absurd enough (Nat.not_le_of_gt (writeAt_pos layout level value))
  | succ fuel => exact read level fuel rest stops enough

theorem list_readsAs {items : List Json} (each : ∀ item ∈ items, ReadsAs layout room item item.inOrder) :
    ReadsAs layout (room + 1) (.list items) (Json.list items).inOrder := by
  refine readsAs_step fun level fuel rest _ enough => ?_
  rw [inOrder, inOrderItems_map]
  cases items with
  | nil => rfl
  | cons item items =>
      rw [writeAt_items] at enough ⊢
      simp only [List.length_cons, List.length_append] at enough
      have read := @readItems_written layout (level + 1) room rest item items each fuel _
        (lineBreak_spaces layout level) (by omega)
      have inner : (layout.lineBreak (level + 1) ++ (itemsText layout (level + 1) (item :: items) ++
          (layout.lineBreak level ++ [.char ']']))) ++ rest =
          layout.lineBreak (level + 1) ++ (itemsText layout (level + 1) (item :: items) ++
            (layout.lineBreak level ++ .char ']' :: rest)) := by simp
      rw [List.cons_append, inner, readValue_bracket (skipSpace_spaces (lineBreak_spaces layout _) _),
        skipSpace_itemsText, read]
      · rfl
      · obtain ⟨c, more, text, first⟩ := itemsText_begins layout (level + 1) item items
        rw [skipSpace_itemsText, text]
        exact fun closed => absurd (Option.some.inj closed) (begins_open first)

theorem object_readsAs {fields : Fields} (apart : Apart fields)
    (names : ∀ field ∈ fields, Clear layout.ascii field.1)
    (each : ∀ field ∈ fields, ReadsAs layout room field.2 field.2.inOrder) :
    ReadsAs layout (room + 1) (.object fields) (Json.object fields).inOrder := by
  refine readsAs_step fun level fuel rest _ enough => ?_
  rw [inOrder_object]
  have among : ∀ {entry}, entry ∈ sortedByName fields → entry ∈ fields :=
    (sortedByName_perm fields).mem_iff.mp
  have own := ofMembers_apart apart.inOrder
  cases sorted : sortedByName fields with
  | nil =>
      obtain rfl : fields = [] := List.nil_perm.mp (sorted ▸ sortedByName_perm fields)
      rw [writeAt, writeFields, sortedByName, List.mergeSort_nil]
      rfl
  | cons field more =>
      rw [sorted] at among own
      rw [writeAt_fields sorted] at enough ⊢
      simp only [List.length_cons, List.length_append] at enough
      have read := @readMembers_written layout (level + 1) room rest field more
        (fun entry member => names entry (among member))
        (fun entry member => each entry (among member)) fuel _ (lineBreak_spaces layout level) (by omega)
      have inner : (layout.lineBreak (level + 1) ++ (fieldsText layout (level + 1) (field :: more) ++
          (layout.lineBreak level ++ [.char '\x7d']))) ++ rest =
          layout.lineBreak (level + 1) ++ (fieldsText layout (level + 1) (field :: more) ++
            (layout.lineBreak level ++ .char '\x7d' :: rest)) := by simp
      rw [List.cons_append, inner, readValue_brace (skipSpace_spaces (lineBreak_spaces layout _) _),
        skipSpace_fieldsText, read]
      · simp only [Except.map, own]
      · rw [skipSpace_fieldsText]
        cases more <;> simp [fieldsText, fieldText, quoted, Text.join]

theorem atom_readsAs {value : Json}
    (read : ∀ level rest, Stops rest →
      readAtom (writeAt layout level value ++ rest) = .ok (value.inOrder, rest))
    (first : ∀ level, ∃ c more, writeAt layout level value = c :: more ∧ beginsAtom c = true) :
    ReadsAs layout room value value.inOrder := by
  refine readsAs_step fun level fuel rest stops _ => ?_
  obtain ⟨c, more, text, first⟩ := first level
  rw [← read level rest stops, text, List.cons_append, readValue_atom first]

theorem readAtom_null (rest : Text) : readAtom (Text.ofString "null" ++ rest) = .ok (.null, rest) := by
  simp [readAtom, constants, Text.ofString, Text.ofChars, Text.dropStart?]

theorem readAtom_bool (layout : Layout) (level : Nat) (b : Bool) (rest : Text) :
    readAtom (writeAt layout level (.bool b) ++ rest) = .ok (.bool b, rest) := by
  cases b <;> simp [writeAt, readAtom, constants, Text.ofString, Text.ofChars, Text.dropStart?]

theorem string_readsAs {s : Text} (clear : Clear layout.ascii s) :
    ReadsAs layout room (.str s) (.str s) := by
  refine readsAs_step fun level fuel rest _ _ => ?_
  have written : writeAt layout level (.str s) ++ rest =
      .char '\x22' :: (s.flatMap (escape layout.ascii) ++ .char '\x22' :: rest) := by
    simp [writeAt, quoted]
  rw [written, readValue, clear]

theorem readValue_legible {value : Json} (legible : Legible layout.ascii room value) :
    ReadsAs layout room value value.inOrder := by
  induction legible with
  | null =>
      exact atom_readsAs (fun _ rest _ => readAtom_null rest) fun _ => ⟨_, _, rfl, by decide⟩
  | bool _ b =>
      refine atom_readsAs (fun level rest _ => readAtom_bool layout level b rest) fun _ => ?_
      cases b <;> exact ⟨_, _, rfl, by decide⟩
  | int _ short =>
      exact atom_readsAs (fun _ _ stops => readAtom_int short stops) fun _ => int_begins _
  | float _ known =>
      exact atom_readsAs (fun _ _ stops => readAtom_float known stops) fun _ => float_begins _
  | str _ clear => exact string_readsAs clear
  | list _ ih => exact list_readsAs ih
  | object apart names _ ih => exact object_readsAs apart names ih

theorem reordered_items {change : Json → Json} {items : List Json}
    (each : ∀ item ∈ items, Reordered item (change item)) (front : List Json) :
    Reordered (.list (front ++ items)) (.list (front ++ items.map change)) := by
  induction items generalizing front with
  | nil => exact .refl _
  | cons item items ih =>
      obtain ⟨first, later⟩ := List.forall_mem_cons.mp each
      have others := ih later (front ++ [change item])
      rw [List.append_assoc, List.append_assoc] at others
      exact (Reordered.item first).trans others

theorem reordered_values {change : Json → Json} {fields : Fields}
    (each : ∀ field ∈ fields, Reordered field.2 (change field.2)) (front : Fields) :
    Reordered (.object (front ++ fields))
      (.object (front ++ fields.map fun field => (field.1, change field.2))) := by
  induction fields generalizing front with
  | nil => exact .refl _
  | cons field fields ih =>
      obtain ⟨first, later⟩ := List.forall_mem_cons.mp each
      have others := ih later (front ++ [(field.1, change field.2)])
      rw [List.append_assoc, List.append_assoc] at others
      exact (Reordered.field first).trans others

theorem legible_reordered {ascii : Bool} {value : Json} (legible : Legible ascii room value) :
    Reordered value value.inOrder := by
  induction legible with
  | null | bool | int | float | str => exact .refl _
  | list _ ih =>
      rw [inOrder, inOrderItems_map]
      exact reordered_items ih []
  | @object room fields apart _ _ ih =>
      rw [inOrder_object]
      have sorted := sortedByName_perm fields
      exact (Reordered.fields apart sorted.symm).trans
        (reordered_values (fun field member => ih field (sorted.mem_iff.mp member)) [])

/-- A written value is read back, with blanks or without behind it, as one that differs from it in
the order of fields alone. -/
theorem read_written {layout : Layout} {value : Json}
    (legible : Legible layout.ascii nestingLimit value) {spaces : Text}
    (blank : ∀ c ∈ spaces, isSpace c = true) :
    read (write layout value ++ spaces) = .ok value.inOrder := by
  obtain ⟨c, more, text, first⟩ := writeAt_begins layout 0 value
  have stops : Stops spaces := List.append_nil spaces ▸ stops_spaces blank (t := []) nofun
  have all : readValue nestingLimit (2 * (writeAt layout 0 value ++ spaces).length + 2)
      (writeAt layout 0 value ++ spaces) = .ok (value.inOrder, spaces) :=
    readValue_legible legible 0 _ _ stops (by
      rw [List.length_append]
      omega)
  rw [write]
  unfold read
  split
  case h_1 marked =>
      rw [text, List.cons_append] at marked
      exact absurd (List.cons.inj marked).1 (begins_unmarked first)
  case h_2 =>
      rw [skipSpace_writeAt, all]
      simp only
      rw [← List.append_nil spaces, skipSpace_spaces blank]
      rfl

end Json

end FenceCheck

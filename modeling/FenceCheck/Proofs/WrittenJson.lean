import FenceCheck.Proofs.JsonOrder
import FenceCheck.Proofs.JsonPiece
import FenceCheck.Proofs.NumberText
import FenceCheck.Proofs.PathText

/-!
What written JSON consists of: the texts of a value in quotes, and around them words, numbers and marks.
So it has no other line ends than those of its layout. In Unicode a half of a character stands in it just
if it stands in one of the texts.
-/

namespace FenceCheck

/-- Written as it is in JSON: no control character, so that it does not end a line in a file or on a
terminal. -/
def CodePoint.IsVisible (c : CodePoint) : Prop := 0x20 ≤ c.val

instance (c : CodePoint) : Decidable c.IsVisible := inferInstanceAs (Decidable (0x20 ≤ c.val))

namespace Json

@[elab_as_elim]
theorem nested {motive : Json → Prop} (value : Json) (null : motive .null) (bool : ∀ b, motive (.bool b))
    (int : ∀ n, motive (.int n)) (float : ∀ x, motive (.float x)) (str : ∀ s, motive (.str s))
    (list : ∀ items, (∀ item ∈ items, motive item) → motive (.list items))
    (object : ∀ fields, (∀ field ∈ fields, motive field.2) → motive (.object fields)) : motive value := by
  cases value with
  | null => exact null
  | bool b => exact bool b
  | int n => exact int n
  | float x => exact float x
  | str s => exact str s
  | list items =>
      exact list items fun item member => nested item null bool int float str list object
  | object fields =>
      exact object fields fun field member => nested field.2 null bool int float str list object
  termination_by sizeOf value
  decreasing_by
    · have smaller := List.sizeOf_lt_of_mem member
      simp only [Json.list.sizeOf_spec]
      omega
    · have smaller := List.sizeOf_lt_of_mem member
      obtain ⟨name, inner⟩ := field
      simp only [Json.object.sizeOf_spec, Prod.mk.sizeOf_spec] at smaller ⊢
      omega

mutual

/-- The texts in a value: its strings, and the names of its fields. -/
def texts : Json → List Text
  | str s => [s]
  | list items => textsOfItems items
  | object fields => textsOfFields fields
  | _ => []

def textsOfItems : List Json → List Text
  | [] => []
  | item :: rest => texts item ++ textsOfItems rest

def textsOfFields : List (Text × Json) → List Text
  | [] => []
  | field :: rest => field.1 :: texts field.2 ++ textsOfFields rest

end

variable {layout : Layout} {s t : Text} {half : Fin 2048}

theorem mem_texts_list {items : List Json} : s ∈ texts (.list items) ↔ ∃ item ∈ items, s ∈ texts item := by
  rw [texts]
  induction items with
  | nil => simp [textsOfItems]
  | cons item rest ih => rw [textsOfItems, List.mem_append, ih, List.exists_mem_cons_iff]

theorem mem_texts_object {fields : Fields} : s ∈ texts (.object fields) ↔
    ∃ field ∈ fields, s = field.1 ∨ s ∈ texts field.2 := by
  rw [texts]
  induction fields with
  | nil => simp [textsOfFields]
  | cons field rest ih =>
      rw [textsOfFields, List.mem_append, List.mem_cons, ih, List.exists_mem_cons_iff]

/-! Outside of its texts. -/

def Layout.plainMarks : Text :=
  Text.ofString "[]\x7b\x7d,: nulltruefalseNaN-Infinity" ++ Text.ofChars Number.alphabet

/-- What stands in written JSON outside of quotes. -/
def Layout.marks (layout : Layout) : Text :=
  plainMarks ++ if layout.indent.isNone then [] else [.char '\n']

variable {P : CodePoint → Prop}

theorem forall_plain (marks : ∀ c ∈ layout.marks, P c) (known : ∀ c ∈ t, c ∈ Layout.plainMarks) :
    ∀ c ∈ t, P c :=
  fun c inside => marks c (List.mem_append_left _ (known c inside))

theorem forall_number (marks : ∀ c ∈ layout.marks, P c) (written : Number.Written t) : ∀ c ∈ t, P c :=
  forall_plain marks fun c inside => List.mem_append_right _ (written c inside)

theorem forall_lineBreak (marks : ∀ c ∈ layout.marks, P c) (level : Nat) :
    ∀ c ∈ layout.lineBreak level, P c := by
  unfold Layout.lineBreak
  cases spread : layout.indent with
  | none => exact List.forall_mem_nil _
  | some width =>
      refine List.forall_mem_cons.mpr ⟨marks _ (List.mem_append_right _ ?_), ?_⟩
      · rw [spread]
        exact List.mem_singleton_self _
      · intro c blank
        rw [List.eq_of_mem_replicate blank]
        exact marks _ (List.mem_append_left _ (by decide))

theorem forall_separator (marks : ∀ c ∈ layout.marks, P c) (level : Nat) :
    ∀ c ∈ layout.separator level, P c := by
  unfold Layout.separator
  split
  · exact forall_plain marks (by decide)
  · exact List.forall_mem_cons.mpr
      ⟨marks _ (List.mem_append_left _ (by decide)), forall_lineBreak marks level⟩

theorem forall_enclose (marks : ∀ c ∈ layout.marks, P c) {level : Nat} {opening closing : Char}
    {parts : List Text} (opened : .char opening ∈ Layout.plainMarks)
    (closed : .char closing ∈ Layout.plainMarks) (each : ∀ part ∈ parts, ∀ c ∈ part, P c) :
    ∀ c ∈ layout.enclose level opening closing parts, P c := by
  have opens := marks _ (List.mem_append_left _ opened)
  have closes : ∀ c ∈ [CodePoint.char closing], P c :=
    List.forall_mem_singleton.mpr (marks _ (List.mem_append_left _ closed))
  unfold Layout.enclose
  split
  · exact List.forall_mem_cons.mpr ⟨opens, closes⟩
  · simp only [List.cons_append, List.append_assoc]
    refine List.forall_mem_cons.mpr ⟨opens, List.forall_mem_append.mpr ⟨forall_lineBreak marks _,
      List.forall_mem_append.mpr ⟨fun c inside => ?_,
        List.forall_mem_append.mpr ⟨forall_lineBreak marks _, closes⟩⟩⟩⟩
    rcases Text.mem_join inside with between | ⟨part, listed, within⟩
    · exact forall_separator marks _ c between
    · exact each part listed c within

/-- What holds of the marks and of all that stands between quotes holds of everything that is written. -/
theorem forall_writeAt (marks : ∀ c ∈ layout.marks, P c) (value : Json)
    (quotes : ∀ s ∈ value.texts, ∀ c ∈ quoted layout.ascii s, P c) (level : Nat) :
    ∀ c ∈ writeAt layout level value, P c := by
  induction value using nested generalizing level with
  | null =>
      rw [writeAt]
      exact forall_plain marks (by decide)
  | bool b => cases b <;> rw [writeAt] <;> exact forall_plain marks (by decide)
  | int n =>
      rw [writeAt]
      exact forall_number marks (Number.written_ofInt n)
  | float x =>
      rw [writeAt, floatText]
      split
      · exact forall_plain marks (by decide)
      · exact forall_plain marks (by decide)
      · exact forall_plain marks (by decide)
      · exact forall_number marks (Number.written_binary x)
  | str s =>
      rw [writeAt]
      exact quotes s (by rw [texts]; exact List.mem_singleton_self s)
  | list items ih =>
      rw [writeAt, writeItems_map]
      refine forall_enclose marks (by decide) (by decide) (List.forall_mem_map.mpr fun item member => ?_)
      exact ih item member (fun s held => quotes s (mem_texts_list.mpr ⟨item, member, held⟩)) _
  | object fields ih =>
      -- Fields are written in the order of their names, which are the same fields.
      rw [writeAt, writeFields_map, sortedByName_map]
      refine forall_enclose marks (by decide) (by decide)
        (List.forall_mem_map.mpr (List.forall_mem_map.mpr fun field among => ?_))
      have member := (sortedByName_perm fields).mem_iff.mp among
      refine List.forall_mem_append.mpr ⟨List.forall_mem_append.mpr ⟨?_, ?_⟩, ?_⟩
      · exact quotes field.1 (mem_texts_object.mpr ⟨field, member, Or.inl rfl⟩)
      · exact forall_plain marks (by decide)
      · exact ih field member
          (fun s held => quotes s (mem_texts_object.mpr ⟨field, member, Or.inr held⟩)) _

/-! Control characters are escaped. -/

theorem visible_hexChar (n : Nat) : (hexChar (n % 16)).IsVisible := by
  have digits : ∀ d < 16, (hexChar d).IsVisible := by decide
  exact digits _ (Nat.mod_lt n (by decide))

theorem visible_unitEscape (unit : Nat) : ∀ d ∈ unitEscape unit, d.IsVisible := by
  rw [unitEscape]
  simp only [List.forall_mem_cons]
  exact ⟨by decide, by decide, visible_hexChar _, visible_hexChar _, visible_hexChar _,
    visible_hexChar _, List.forall_mem_nil _⟩

theorem visible_wideEscape (n : Nat) : ∀ d ∈ wideEscape n, d.IsVisible := by
  rw [wideEscape]
  split
  · exact visible_unitEscape n
  · exact List.forall_mem_append.mpr ⟨visible_unitEscape _, visible_unitEscape _⟩

theorem visible_escape (ascii : Bool) (c : CodePoint) : ∀ d ∈ escape ascii c, d.IsVisible := by
  unfold escape
  split
  case h_8 =>
      split
      case isTrue control => exact visible_unitEscape c.val
      case isFalse plain =>
          split
          · exact visible_wideEscape c.val
          · exact List.forall_mem_singleton.mpr (Nat.le_of_not_lt plain)
  all_goals decide

theorem visible_quoted (ascii : Bool) (s : Text) : ∀ c ∈ quoted ascii s, c.IsVisible := by
  refine List.forall_mem_cons.mpr ⟨by decide, List.forall_mem_append.mpr ⟨?_, by decide⟩⟩
  exact List.forall_mem_flatMap.mpr fun c _ => visible_escape ascii c

/-- A value that is not spread over lines stands on one. -/
theorem visible_writeAt (flat : layout.indent = none) (value : Json) (level : Nat) :
    ∀ c ∈ writeAt layout level value, c.IsVisible := by
  refine forall_writeAt ?_ value (fun s _ => visible_quoted layout.ascii s) level
  rw [Layout.marks, flat]
  decide

/-- Written JSON has line feeds at most, so reading it as text changes nothing. -/
theorem writeAt_return (value : Json) (level : Nat) : .char '\r' ∉ writeAt layout level value := by
  have other : ∀ c ∈ writeAt layout level value, c ≠ .char '\r' := by
    refine forall_writeAt ?_ value (fun s _ c inside same => ?_) level
    · rw [Layout.marks]
      split <;> decide
    · exact absurd (same ▸ visible_quoted layout.ascii s c inside) (by decide)
  exact fun inside => other _ inside rfl

/-! Halves of characters are not. -/

theorem chars_marks : ∀ c ∈ layout.marks, c ≠ .surrogate half := by
  intro c inside same
  subst same
  rcases List.mem_append.mp inside with plain | feed
  · rcases List.mem_append.mp plain with mark | number
    · obtain ⟨d, -, wrong⟩ := List.mem_map.mp mark
      cases wrong
    · obtain ⟨d, -, wrong⟩ := List.mem_map.mp number
      cases wrong
  · split at feed
    · cases feed
    · cases List.mem_singleton.mp feed

theorem half_escape {c : CodePoint} : .surrogate half ∈ escape false c ↔ c = .surrogate half := by
  constructor
  · intro inside
    unfold escape at inside
    split at inside
    case h_8 =>
        split at inside
        case isTrue control => simp [unitEscape, hexChar] at inside
        case isFalse plain =>
            rw [if_neg (by simp)] at inside
            exact (List.mem_singleton.mp inside).symm
    all_goals simp at inside
  · rintro rfl
    have wide : ¬ (CodePoint.surrogate half).val < 0x20 := by
      simp only [CodePoint.val]
      omega
    simp [escape, wide]

theorem half_quoted : .surrogate half ∈ quoted false s ↔ .surrogate half ∈ s := by
  simp only [quoted, List.cons_append, List.mem_cons, List.mem_append, List.mem_flatMap, half_escape]
  simp

theorem mem_enclose {level : Nat} {opening closing : Char} {parts : List Text} {part : Text}
    (listed : part ∈ parts) {c : CodePoint} (inside : c ∈ part) :
    c ∈ layout.enclose level opening closing parts := by
  unfold Layout.enclose
  split
  case h_1 => cases listed
  case h_2 =>
      have joined := @Text.mem_join_piece (layout.separator (level + 1)) _ _ _ listed inside
      exact List.mem_append_left _ (List.mem_append_left _ (List.mem_append_right _ joined))

theorem mem_writeAt {value : Json} (held : s ∈ value.texts) {c : CodePoint}
    (inside : c ∈ quoted layout.ascii s) (level : Nat) : c ∈ writeAt layout level value := by
  induction value using nested generalizing level with
  | null | bool | int | float =>
      rw [texts] at held
      · cases held
      all_goals nofun
  | str t =>
      rw [texts, List.mem_singleton] at held
      subst held
      rwa [writeAt]
  | list items ih =>
      obtain ⟨item, member, within⟩ := mem_texts_list.mp held
      rw [writeAt, writeItems_map]
      exact mem_enclose (List.mem_map_of_mem member) (ih item member within _)
  | object fields ih =>
      obtain ⟨field, member, within⟩ := mem_texts_object.mp held
      rw [writeAt, writeFields_map, sortedByName_map, List.map_map]
      refine mem_enclose (List.mem_map_of_mem ((sortedByName_perm fields).mem_iff.mpr member)) ?_
      rcases within with rfl | within
      · exact List.mem_append_left _ (List.mem_append_left _ inside)
      · exact List.mem_append_right _ (ih field member within _)

/-- In Unicode a half of a character stands in the text of a value just if it stands in one of its texts. -/
theorem half_writeAt (unicode : layout.ascii = false) {value : Json} {level : Nat} :
    .surrogate half ∈ writeAt layout level value ↔ ∃ s ∈ value.texts, .surrogate half ∈ s := by
  constructor
  · intro inside
    by_contra none
    refine forall_writeAt (P := (· ≠ .surrogate half)) chars_marks value (fun s held c among same => ?_)
      level _ inside rfl
    rw [unicode, same, half_quoted] at among
    exact none ⟨s, held, among⟩
  · rintro ⟨s, held, inside⟩
    exact mem_writeAt held (by rwa [unicode, half_quoted]) level

end Json

end FenceCheck

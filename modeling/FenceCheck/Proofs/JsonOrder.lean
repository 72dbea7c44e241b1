import FenceCheck.Proofs.JsonText
import Mathlib.Data.List.Nodup

/-!
The order of fields in written JSON. It is that of their names, so values that differ in the order of
fields alone have one text.
-/

namespace FenceCheck

theorem forall₂_right {α β : Type} {relation : α → β → Prop} {items : List α} {others : List β}
    (pairs : List.Forall₂ relation items others) {other : β} (member : other ∈ others) :
    ∃ item ∈ items, relation item other := by
  induction pairs with
  | nil => cases member
  | @cons item first _ _ here _ ih =>
      rcases List.mem_cons.mp member with rfl | behind
      · exact ⟨item, List.mem_cons_self, here⟩
      · obtain ⟨item, origin, related⟩ := ih behind
        exact ⟨item, List.mem_cons_of_mem _ origin, related⟩

theorem CodePoint.val_inj {c d : CodePoint} (same : c.val = d.val) : c = d := by
  have known := c.ofVal_val
  rw [same, d.ofVal_val] at known
  exact (Option.some.inj known).symm

namespace Text

theorem le_total (s t : Text) : (le s t || le t s) = true := by
  induction s generalizing t with
  | nil => rfl
  | cons c s ih =>
      cases t with
      | nil => rfl
      | cons d t =>
          rw [le, le]
          by_cases same : c.val = d.val
          · rw [if_pos same, if_pos same.symm]
            exact ih t
          · rw [if_neg same, if_neg (Ne.symm same), Bool.or_eq_true, decide_eq_true_iff,
              decide_eq_true_iff]
            omega

theorem le_trans {r s t : Text} (first : le r s = true) (second : le s t = true) :
    le r t = true := by
  fun_induction le r s generalizing t with
  | case1 => rfl
  | case2 => cases first
  | case3 c r d s same ih =>
      cases t with
      | nil => cases second
      | cons e t =>
          rw [le] at second ⊢
          rw [same]
          by_cases next : d.val = e.val
          · rw [if_pos next] at second ⊢
            exact ih first second
          · rw [if_neg next] at second ⊢
            exact second
  | case4 c r d s other =>
      cases t with
      | nil => cases second
      | cons e t =>
          rw [decide_eq_true_iff] at first
          rw [le] at second ⊢
          split at second
          case isTrue same =>
              rw [if_neg (by omega), decide_eq_true_iff]
              omega
          case isFalse =>
              rw [decide_eq_true_iff] at second
              rw [if_neg (by omega), decide_eq_true_iff]
              omega

theorem le_antisymm {s t : Text} (first : le s t = true) (second : le t s = true) : s = t := by
  fun_induction le s t with
  | case1 t =>
      cases t with
      | nil => rfl
      | cons => cases second
  | case2 => cases first
  | case3 c s d t same ih =>
      rw [le, if_pos same.symm] at second
      rw [CodePoint.val_inj same, ih first second]
  | case4 c s d t other =>
      rw [decide_eq_true_iff] at first
      rw [le, if_neg (Ne.symm other), decide_eq_true_iff] at second
      omega

end Text

namespace Json

section

variable {α β : Type} {fields others : List (Text × α)}

def Apart (fields : List (Text × α)) : Prop := (fields.map (·.1)).Nodup

theorem Apart.perm (apart : Apart fields) (perm : fields.Perm others) : Apart others :=
  (perm.map _).nodup_iff.mp apart

theorem Apart.same (apart : Apart fields) {first second : Text × α} (here : first ∈ fields)
    (there : second ∈ fields) (name : first.1 = second.1) : first = second :=
  List.inj_on_of_nodup_map apart here there name

theorem sortedByName_perm (fields : List (Text × α)) : (sortedByName fields).Perm fields :=
  List.mergeSort_perm fields _

theorem sortedByName_pairwise (fields : List (Text × α)) :
    (sortedByName fields).Pairwise fun a b => Text.le a.1 b.1 = true := by
  apply List.pairwise_mergeSort
  · exact fun _ _ _ => Text.le_trans
  · exact fun _ _ => Text.le_total _ _

theorem sortedByName_eq (apart : Apart fields) (perm : fields.Perm others) :
    sortedByName fields = sortedByName others := by
  have sorted := (sortedByName_perm fields).trans (perm.trans (sortedByName_perm others).symm)
  refine List.Perm.eq_of_pairwise (fun a b here there before after => ?_)
    (sortedByName_pairwise fields) (sortedByName_pairwise others) sorted
  exact apart.same ((sortedByName_perm fields).mem_iff.mp here)
    (perm.mem_iff.mpr ((sortedByName_perm others).mem_iff.mp there)) (Text.le_antisymm before after)

theorem sortedByName_map (change : α → β) (fields : List (Text × α)) :
    sortedByName (fields.map fun field => (field.1, change field.2)) =
      (sortedByName fields).map fun field => (field.1, change field.2) := by
  have kept := List.map_mergeSort (r := fun a b : Text × α => Text.le a.1 b.1)
    (s := fun a b : Text × β => Text.le a.1 b.1) (l := fields)
    (f := fun field => (field.1, change field.2)) fun _ _ _ _ => rfl
  exact kept.symm

end

/-- One value is another with the fields of its objects in some order. -/
inductive Reordered : Json → Json → Prop where
  | refl (value : Json) : Reordered value value
  | trans {first second third : Json} (here : Reordered first second)
      (there : Reordered second third) : Reordered first third
  | fields {fields others : Fields} (apart : Apart fields) (perm : fields.Perm others) :
      Reordered (.object fields) (.object others)
  | field {front back : Fields} {name : Text} {value other : Json} (inner : Reordered value other) :
      Reordered (.object (front ++ (name, value) :: back)) (.object (front ++ (name, other) :: back))
  | item {front back : List Json} {value other : Json} (inner : Reordered value other) :
      Reordered (.list (front ++ value :: back)) (.list (front ++ other :: back))

variable {value other : Json} {fields : Fields} {items : List Json}

theorem writeFields_map (layout : Layout) (level : Nat) (fields : Fields) :
    writeFields layout level fields =
      fields.map fun field => (field.1, writeAt layout level field.2) := by
  induction fields with
  | nil => rfl
  | cons field rest ih => rw [writeFields, ih, List.map_cons]

theorem writeItems_map (layout : Layout) (level : Nat) (items : List Json) :
    writeItems layout level items = items.map (writeAt layout level) := by
  induction items with
  | nil => rfl
  | cons item rest ih => rw [writeItems, ih, List.map_cons]

/-- A text does not tell in which order the fields of its objects were added. -/
theorem writeAt_reordered (reordered : Reordered value other) (layout : Layout) (level : Nat) :
    writeAt layout level value = writeAt layout level other := by
  induction reordered generalizing level with
  | refl => rfl
  | trans here there first second => exact (first level).trans (second level)
  | fields apart perm =>
      have written := perm.map fun field => (field.1, writeAt layout (level + 1) field.2)
      rw [writeAt, writeAt, writeFields_map, writeFields_map, sortedByName_eq _ written]
      rwa [Apart, List.map_map]
  | field inner ih => simp only [writeAt, writeFields_map, List.map_append, List.map_cons, ih]
  | item inner ih => simp only [writeAt, writeItems_map, List.map_append, List.map_cons, ih]

/-! What a value can be reordered to. -/

theorem forall₂_trans {middle others : List Json} (here : List.Forall₂ Reordered items middle)
    (there : List.Forall₂ Reordered middle others) : List.Forall₂ Reordered items others := by
  induction here generalizing others with
  | nil => exact there
  | cons first _ ih =>
      obtain ⟨other, rest, second, later, rfl⟩ := List.forall₂_cons_left_iff.mp there
      exact .cons (first.trans second) (ih later)

theorem Reordered.list_inv (reordered : Reordered (.list items) value) :
    ∃ others, value = .list others ∧ List.Forall₂ Reordered items others := by
  generalize whole : Json.list items = start at reordered
  induction reordered generalizing items with
  | refl => exact ⟨items, whole.symm, List.forall₂_same.mpr fun item _ => .refl item⟩
  | trans here there first second =>
      obtain ⟨middle, rfl, before⟩ := first whole
      obtain ⟨others, rfl, after⟩ := second rfl
      exact ⟨others, rfl, forall₂_trans before after⟩
  | fields => cases whole
  | field => cases whole
  | @item front back value other inner =>
      cases whole
      refine ⟨_, rfl, List.rel_append (List.forall₂_same.mpr fun item _ => .refl item) ?_⟩
      exact .cons inner (List.forall₂_same.mpr fun item _ => .refl item)

theorem Reordered.object_inv (reordered : Reordered (.object fields) value) :
    ∃ others, value = .object others ∧ (others.map (·.1)).Perm (fields.map (·.1)) ∧
      ∀ field ∈ others, ∃ before, (field.1, before) ∈ fields ∧ Reordered before field.2 := by
  -- The induction is on the reordering, so what it starts from has to be a variable.
  generalize whole : Json.object fields = start at reordered
  induction reordered generalizing fields with
  | refl =>
      exact ⟨fields, whole.symm, .refl _, fun field member => ⟨field.2, member, .refl _⟩⟩
  | trans here there first second =>
      obtain ⟨middle, rfl, names, before⟩ := first whole
      obtain ⟨others, rfl, later, after⟩ := second rfl
      refine ⟨others, rfl, later.trans names, fun field member => ?_⟩
      obtain ⟨inner, within, changed⟩ := after field member
      obtain ⟨start, origin, first⟩ := before _ within
      exact ⟨start, origin, first.trans changed⟩
  | fields apart perm =>
      cases whole
      exact ⟨_, rfl, (perm.map _).symm, fun field member =>
        ⟨field.2, perm.mem_iff.mpr member, .refl _⟩⟩
  | @field front back name value other inner =>
      cases whole
      refine ⟨_, rfl, by simp, fun field member => ?_⟩
      rcases List.mem_append.mp member with before | here
      · exact ⟨field.2, List.mem_append_left _ before, .refl _⟩
      · rcases List.mem_cons.mp here with rfl | behind
        · exact ⟨value, List.mem_append_right _ List.mem_cons_self, inner⟩
        · exact ⟨field.2, List.mem_append_right _ (List.mem_cons_of_mem _ behind), .refl _⟩
  | item => cases whole

def IsScalar : Json → Prop
  | list _ | object _ => False
  | _ => True

theorem Reordered.scalar_inv (reordered : Reordered value other) (scalar : value.IsScalar) :
    other = value := by
  induction reordered with
  | refl => rfl
  | trans here there first second =>
      cases first scalar
      exact second scalar
  | fields | field | item => exact scalar.elim

end Json

end FenceCheck

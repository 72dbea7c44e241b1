import FenceCheck.Proofs.ConsoleAnswer
import FenceCheck.Proofs.LiveRegion
import Mathlib.Data.List.Nodup

/-!
A console with a live region shows what one without it shows, and below it the items in flight. This
holds after each call of a run, in whatever order the items start and finish, with any number of ticks
between the calls; after the summary nothing is left of the live region.
-/

namespace FenceCheck

open Terminal

namespace Indexed

variable {α : Type}

theorem put_new (entries : Indexed α) {index : Int} (value : α)
    (absent : ∀ entry ∈ entries, entry.1 ≠ index) :
    entries.put index value = entries ++ [(index, value)] := by
  induction entries with
  | nil => rfl
  | cons entry rest ih =>
      rw [put, if_neg (absent entry List.mem_cons_self), List.cons_append,
        ih fun other member => absent other (List.mem_cons_of_mem _ member)]

theorem remove_perm {entries rest : Indexed α} {index : Int} {value : α}
    (perm : entries.Perm ((index, value) :: rest)) (absent : ∀ entry ∈ rest, entry.1 ≠ index) :
    (entries.remove index).Perm rest := by
  have removed : ((index, value) :: rest).filter (fun entry => entry.1 ≠ index) = rest := by
    rw [List.filter_cons_of_neg (by simp)]
    exact List.filter_eq_self.mpr fun entry member => by simpa using absent entry member
  have filtered := perm.filter fun entry => entry.1 ≠ index
  rw [removed] at filtered
  exact filtered

end Indexed

theorem pairwise_sorted {α : Type} (key : α → Int) (list : List α) :
    (list.mergeSort fun one other => key one ≤ key other).Pairwise
      fun one other => key one ≤ key other := by
  have sorted : (list.mergeSort fun one other => key one ≤ key other).Pairwise
      fun one other => decide (key one ≤ key other) = true :=
    List.pairwise_mergeSort (fun one other third => by simp only [decide_eq_true_eq]; omega)
      (fun one other => by simp only [Bool.or_eq_true, decide_eq_true_eq]; omega) list
  exact sorted.imp fun ordered => of_decide_eq_true ordered

theorem Indexed.inOrder_arranged {α : Type} {entries arranged : Indexed α}
    (perm : entries.Perm arranged)
    (ascending : arranged.Pairwise fun one other => one.1 < other.1) :
    entries.inOrder = arranged.map (·.2) := by
  have same : (entries.mergeSort fun one other => one.1 ≤ other.1) = arranged := by
    -- Equal indices are those of the same entry, so the order leaves no choice.
    refine List.Perm.eq_of_pairwise ?_ (pairwise_sorted (·.1) entries)
      (ascending.imp Int.le_of_lt) ((List.mergeSort_perm _ _).trans perm)
    intro one other mine yours below above
    have keys : (arranged.map (·.1)).Nodup := List.pairwise_map.mpr (ascending.imp Int.ne_of_lt)
    have listed := ((List.mergeSort_perm _ _).trans perm).mem_iff.mp mine
    exact List.inj_on_of_nodup_map keys listed yours (Int.le_antisymm below above)
  rw [inOrder, same]

namespace Console

namespace Call

def isTick : Call → Bool
  | .tick => true
  | _ => false

def startedItem? : Call → Option Item
  | .started item => some item
  | _ => none

def finishedItem? : Call → Option Item
  | .finished item _ => some item
  | _ => none

end Call

def startedItems (calls : List Call) : List Item := calls.filterMap Call.startedItem?

def finishedItems (calls : List Call) : List Item := calls.filterMap Call.finishedItem?

def ticks (calls : List Call) : Nat := calls.countP Call.isTick

/-- The items in flight after calls, in the order of their indices. -/
def flying (items : List Item) (calls : List Call) : List Item :=
  (items.filter fun item => item ∈ startedItems calls ∧ item ∉ finishedItems calls).mergeSort
    fun one other => one.index ≤ other.index

/-- The courses of a run over items. Once the items are announced each of them starts at most once and
finishes at most once, after its start; a tick may come at any time. -/
inductive Course (items : List Item) : List Call → Prop where
  | idle : Course items []
  | scanning (directory : Bool) : Course items [.scanning directory]
  | found (directory : Bool) (documents : Int) (workers : Amount) :
      Course items [.scanning directory, .found documents workers]
  | start (directory : Bool) (documents : Int) (workers : Amount) :
      Course items [.scanning directory, .found documents workers, .start items]
  | tick {calls : List Call} (course : Course items calls) (begun : .start items ∈ calls) :
      Course items (calls ++ [.tick])
  | started {calls : List Call} {item : Item} (course : Course items calls)
      (begun : .start items ∈ calls) (listed : item ∈ items) (fresh : item ∉ startedItems calls) :
      Course items (calls ++ [.started item])
  | finished {calls : List Call} {item : Item} (course : Course items calls)
      (launched : item ∈ startedItems calls) (unfinished : item ∉ finishedItems calls)
      (outcome : Outcome) : Course items (calls ++ [.finished item outcome])

variable {items : List Item} {calls : List Call} {item : Item}

theorem mem_flying : item ∈ flying items calls ↔
    item ∈ items ∧ item ∈ startedItems calls ∧ item ∉ finishedItems calls := by
  rw [flying, (List.mergeSort_perm _ _).mem_iff, List.mem_filter, decide_eq_true_eq]

theorem flying_keys (distinct : (items.map Item.index).Nodup) (calls : List Call) :
    ((flying items calls).map Item.index).Nodup :=
  ((List.mergeSort_perm _ _).map _).nodup_iff.mpr ((List.filter_sublist.map _).nodup distinct)

theorem flying_ascending (distinct : (items.map Item.index).Nodup) (calls : List Call) :
    (flying items calls).Pairwise fun one other => one.index < other.index :=
  ((pairwise_sorted Item.index _).and (List.pairwise_map.mp (flying_keys distinct calls))).imp
    fun ordered => Int.lt_iff_le_and_ne.mpr ordered

theorem flying_nodup (distinct : (items.map Item.index).Nodup) (calls : List Call) :
    (flying items calls).Nodup :=
  List.Nodup.of_map _ (flying_keys distinct calls)

theorem flying_apart (distinct : (items.map Item.index).Nodup) (listed : item ∈ items)
    (grounded : item ∉ flying items calls) : ∀ other ∈ flying items calls, other.index ≠ item.index := by
  intro other member same
  have equal := List.inj_on_of_nodup_map distinct (mem_flying.mp member).1 listed same
  exact grounded (equal ▸ member)

theorem startedItems_append (calls more : List Call) :
    startedItems (calls ++ more) = startedItems calls ++ startedItems more :=
  List.filterMap_append

theorem finishedItems_append (calls more : List Call) :
    finishedItems (calls ++ more) = finishedItems calls ++ finishedItems more :=
  List.filterMap_append

theorem ticks_append (calls more : List Call) : ticks (calls ++ more) = ticks calls + ticks more :=
  List.countP_append

theorem flying_kept {call : Call} (starts : call.startedItem? = none)
    (finishes : call.finishedItem? = none) (items : List Item) (calls : List Call) :
    flying items (calls ++ [call]) = flying items calls := by
  have started : startedItems [call] = [] := by simp [startedItems, starts]
  have finished : finishedItems [call] = [] := by simp [finishedItems, finishes]
  rw [flying, startedItems_append, finishedItems_append, started, finished, List.append_nil,
    List.append_nil, flying]

theorem fresh_grounded (items : List Item) (fresh : item ∉ startedItems calls) :
    item ∉ flying items calls :=
  fun member => fresh (mem_flying.mp member).2.1

theorem finished_grounded (items : List Item) (calls : List Call) (item : Item)
    (outcome : Outcome) : item ∉ flying items (calls ++ [.finished item outcome]) := by
  intro member
  have ended : item ∈ finishedItems (calls ++ [.finished item outcome]) := by
    rw [finishedItems_append]
    exact List.mem_append_right _ List.mem_cons_self
  exact (mem_flying.mp member).2.2 ended

theorem flying_started (distinct : (items.map Item.index).Nodup) (listed : item ∈ items)
    (fresh : item ∉ startedItems calls) (unfinished : item ∉ finishedItems calls) :
    (flying items (calls ++ [.started item])).Perm (item :: flying items calls) := by
  refine (List.perm_ext_iff_of_nodup (flying_nodup distinct _)
    (List.nodup_cons.mpr ⟨fresh_grounded items fresh, flying_nodup distinct calls⟩)).mpr
      fun other => ?_
  have started : startedItems [.started item] = [item] := rfl
  have finished : finishedItems [.started item] = [] := rfl
  rw [List.mem_cons, mem_flying, mem_flying, startedItems_append, finishedItems_append, started,
    finished, List.append_nil, List.mem_append, List.mem_singleton]
  constructor
  · rintro ⟨member, old | rfl, open'⟩
    · exact Or.inr ⟨member, old, open'⟩
    · exact Or.inl rfl
  · rintro (rfl | ⟨member, old, open'⟩)
    · exact ⟨listed, Or.inr rfl, unfinished⟩
    · exact ⟨member, Or.inl old, open'⟩

theorem flying_finished (distinct : (items.map Item.index).Nodup) (listed : item ∈ items)
    (launched : item ∈ startedItems calls) (unfinished : item ∉ finishedItems calls)
    (outcome : Outcome) :
    (flying items calls).Perm (item :: flying items (calls ++ [.finished item outcome])) := by
  have started : startedItems [.finished item outcome] = [] := rfl
  have finished : finishedItems [.finished item outcome] = [item] := rfl
  have after (other : Item) : other ∈ flying items (calls ++ [.finished item outcome]) ↔
      other ∈ flying items calls ∧ other ≠ item := by
    rw [mem_flying, mem_flying, startedItems_append, finishedItems_append, started, finished,
      List.append_nil, List.mem_append, List.mem_singleton, not_or]
    tauto
  have grounded := finished_grounded items calls item outcome
  refine (List.perm_ext_iff_of_nodup (flying_nodup distinct _)
    (List.nodup_cons.mpr ⟨grounded, flying_nodup distinct _⟩)).mpr fun other => ?_
  rw [List.mem_cons, after]
  have member : item ∈ flying items calls := mem_flying.mpr ⟨listed, launched, unfinished⟩
  constructor
  · intro old
    exact (eq_or_ne other item).imp_right fun different => ⟨old, different⟩
  · rintro (rfl | ⟨old, -⟩)
    · exact member
    · exact old

end Console

end FenceCheck

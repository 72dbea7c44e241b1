import FenceCheck.Proofs.PoolCompletion
import Mathlib.Data.List.Perm.Subperm

/-!
Runs of a pool whose indices may be wrong: several items may denote the same slot, and some none. A
worker is lost only with an item that denotes no slot, so while there are fewer of these than workers,
some worker goes on until no item is left. In any case each slot either holds the outcome of an item
that denotes it, or is one of those that the failure lists.
-/

namespace FenceCheck

namespace Pool

def Happening.executed? : Happening → Option Claim
  | .executed claim => some claim
  | .started _ | .finished .. => none

def executions (history : List Happening) : List Claim :=
  history.filterMap Happening.executed?

section

variable {σ : Type} (crew : Crew σ)

def Crew.claims : List Claim :=
  crew.items.zipIdx.map fun (item, position) => ⟨position, item⟩

/-- An index that denotes no slot. -/
def Crew.isAstray (item : Item) : Bool :=
  (slot? item.index crew.items.length).isNone

/-- The slots that no finished item denotes, in ascending order. -/
def Crew.unwritten (history : List Happening) : List Nat :=
  (List.range crew.items.length).filter fun slot =>
    (finishes history).all fun (claim, _) => slot? claim.item.index crew.items.length ≠ some slot

/-- What a run gives after a history: in every slot the outcome of an item that denotes it, or a failure
that lists the slots that nobody wrote. -/
def Crew.Accounts (history : List Happening) : Except Failure (List Outcome) → Prop
  | .ok outcomes => outcomes.length = crew.items.length ∧
      ∀ (slot : Nat) (outcome : Outcome), outcomes[slot]? = some outcome →
        ∃ claim, (claim, outcome) ∈ crew.rows ∧ (claim, outcome) ∈ finishes history ∧
          slot? claim.item.index crew.items.length = some slot
  | .error failure => crew.unwritten history ≠ [] ∧
      failure = .emptySlots (crew.unwritten history)

/-- A worker that is lost, or will be with the item in hand. -/
def Crew.isDoomed (stage : Stage) : Bool :=
  stage = .lost || stage.record?.any fun (claim, _) => crew.isAstray claim.item

variable {crew} {origin : σ} {state next : State σ} {worker : Nat} {history : List Happening}
  {stages : List Stage} {before after : Stage}

/-! No more workers are doomed than astray items were claimed. -/

theorem doomed_set (crew : Crew σ) (after : Stage) (here : stages[worker]? = some before) :
    (stages.set worker after).countP crew.isDoomed + (crew.isDoomed before).toNat =
      stages.countP crew.isDoomed + (crew.isDoomed after).toNat := by
  obtain ⟨bound, rfl⟩ := List.getElem?_eq_some_iff.mp here
  have counted (doomed : crew.isDoomed stages[worker] = true) : 0 < stages.countP crew.isDoomed :=
    List.countP_pos_iff.mpr ⟨_, List.getElem_mem bound, doomed⟩
  rw [List.countP_set bound]
  cases doomed : crew.isDoomed stages[worker] with
  | false => cases crew.isDoomed after <;> rfl
  | true =>
      have least := counted doomed
      cases crew.isDoomed after <;> simp <;> omega

theorem doomed_keep {count : Nat} (here : stages[worker]? = some before)
    (few : stages.countP crew.isDoomed ≤ count)
    (handed : crew.isDoomed after = true → crew.isDoomed before = true) :
    (stages.set worker after).countP crew.isDoomed ≤ count := by
  have total := doomed_set crew after here
  cases later : crew.isDoomed after with
  | false =>
      rw [later] at total
      exact Nat.le_trans (Nat.le.intro total) few
  | true =>
      rw [later, handed later] at total
      omega

theorem telling_doomed {happening : Happening}
    (told : crew.telling before = some (happening, after)) (doomed : crew.isDoomed after = true) :
    crew.isDoomed before = true := by
  cases before <;> cases told <;> first | exact doomed | simp [Crew.isDoomed, Stage.record?] at doomed

theorem step_doomed (hears : crew.Hears origin)
    (kept : crew.Sound origin state ∧
      state.stages.countP crew.isDoomed ≤ (crew.items.take state.cursor).countP crew.isAstray)
    (step : crew.Step worker state next) :
    crew.Sound origin next ∧
      next.stages.countP crew.isDoomed ≤ (crew.items.take next.cursor).countP crew.isAstray := by
  obtain ⟨sound, few⟩ := kept
  refine ⟨step_sound hears sound step, ?_⟩
  cases step with
  | @claim item idle left =>
      -- The item that the worker takes counts on both sides if its index is astray.
      have total := doomed_set crew (.claimed ⟨state.cursor, item⟩) idle
      have own : crew.isDoomed (.claimed ⟨state.cursor, item⟩) = crew.isAstray item := rfl
      have free : crew.isDoomed .idle = false := rfl
      simp only [State.move, List.take_add_one, left, List.countP_append, Option.toList_some,
        List.countP_singleton]
      rw [own, free] at total
      cases astray : crew.isAstray item <;> simp [astray] at total ⊢ <;> omega
  | leave idle left => exact doomed_keep idle few (by simp [Crew.isDoomed, Stage.record?])
  | @tell before after happening here told =>
      rw [afterTelling_heard after (sound.heard hears here told)]
      exact doomed_keep here few (telling_doomed told)
  | store here place => exact doomed_keep here few id
  | miss here place =>
      rw [sound.filled.slot_count] at place
      exact doomed_keep here few fun _ => by simp [Crew.isDoomed, Stage.record?, Crew.isAstray, place]

theorem complete_doomed (hears : crew.Hears origin) (workers : Nat) (schedule : List Nat) :
    (crew.complete schedule workers origin).stages.countP crew.isDoomed ≤
      crew.items.countP crew.isAstray := by
  have kept := complete_keeps (fun _ _ _ => step_doomed hears) schedule workers origin
    ⟨sound_start workers origin, by simp [State.start, Crew.isDoomed, Stage.record?]⟩
  exact Nat.le_trans kept.2 (List.take_sublist _ _).countP_le

theorem complete_emptied (hears : crew.Hears origin) {workers : Nat} (schedule : List Nat)
    (few : crew.items.countP crew.isAstray < workers) :
    (crew.complete schedule workers origin).cursor = crew.items.length := by
  have sound := complete_sound hears workers schedule
  have ended := complete_ended crew schedule workers origin
  have doomed := complete_doomed hears workers schedule
  have count := complete_stage_count crew schedule workers origin
  have staying : ∃ stage ∈ (crew.complete schedule workers origin).stages,
      ¬ crew.isDoomed stage = true := by
    by_contra! all
    have whole := List.countP_eq_length.mpr all
    omega
  obtain ⟨stage, member, stays⟩ := staying
  rcases ended stage member with rfl | rfl
  · exact sound.ledger.emptied member
  · simp [Crew.isDoomed] at stays

/-! What was executed and what was finished. -/

theorem mem_executions {claim : Claim} :
    claim ∈ executions history ↔ .executed claim ∈ history := by
  constructor
  · intro member
    obtain ⟨happening, here, executed⟩ := List.mem_filterMap.mp member
    cases happening <;> cases executed
    exact here
  · exact fun here => List.mem_filterMap.mpr ⟨_, here, rfl⟩

theorem executions_nodup (distinct : history.Nodup) : (executions history).Nodup := by
  refine distinct.filterMap ?_
  intro one other claim mine yours
  cases one <;> cases mine
  cases other <;> cases yours
  rfl

theorem mem_claims {claim : Claim} :
    claim ∈ crew.claims ↔ crew.items[claim.position]? = some claim.item := by
  constructor
  · intro member
    obtain ⟨⟨item, position⟩, here, rfl⟩ := List.mem_map.mp member
    exact List.mem_zipIdx_iff_getElem?.mp here
  · exact fun here => List.mem_map.mpr
      ⟨(claim.item, claim.position), List.mem_zipIdx_iff_getElem?.mpr here, rfl⟩

theorem claims_nodup (crew : Crew σ) : crew.claims.Nodup := by
  have rows : crew.claims.map (fun claim => (claim, crew.outcomeOf claim.item.block)) = crew.rows := by
    rw [Crew.claims, List.map_map]
    rfl
  exact List.Nodup.of_map _ (rows ▸ rows_nodup crew)

theorem executions_subperm (orderly : crew.Orderly history) :
    (executions history).Subperm crew.claims :=
  (executions_nodup (orderly_nodup orderly)).subperm fun _ member =>
    mem_claims.mpr (orderly_mem orderly (mem_executions.mp member)).1

theorem executed_of_over {claim : Claim} (ended : crew.Over history claim) :
    .executed claim ∈ history := by
  have own : .executed claim ∈ about claim.position history := by
    rcases ended with whole | ⟨-, cut⟩
    · simp [whole, Crew.life]
    · simp [cut]
  exact (mem_about.mp own).1

theorem executions_perm (sound : crew.Sound origin state) (ended : state.Ended)
    (emptied : state.cursor = crew.items.length) :
    (executions state.history).Perm crew.claims := by
  have orderly := sound.ledger.orderly
  refine (List.perm_ext_iff_of_nodup (executions_nodup (orderly_nodup orderly))
    (claims_nodup crew)).mpr fun claim => ⟨fun member => ?_, fun member => ?_⟩
  · exact mem_claims.mpr (orderly_mem orderly (mem_executions.mp member)).1
  · exact mem_executions.mpr
      (executed_of_over (ended_over sound ended emptied (mem_claims.mp member)))

/-! The slots at the end. -/

theorem ended_stored (ended : state.Ended) {claim : Claim}
    (stored : Stored state.stages state.history claim) :
    ∃ outcome, (claim, outcome) ∈ finishes state.history := by
  rcases stored with ⟨stage, member, inHand⟩ | ⟨happening, member, finished⟩
  · rcases ended stage member with rfl | rfl <;> cases inHand
  · cases happening <;> cases finished
    exact ⟨_, mem_finishes.mpr member⟩

theorem slot_filled (sound : crew.Sound origin state) (ended : state.Ended) {slot : Nat}
    {outcome : Outcome} (filled : state.slots[slot]? = some (some outcome)) :
    ∃ claim, (claim, outcome) ∈ crew.rows ∧ (claim, outcome) ∈ finishes state.history ∧
      slot? claim.item.index crew.items.length = some slot := by
  obtain ⟨claim, stored, item, place, rfl⟩ := sound.filled.genuine slot outcome filled
  obtain ⟨outcome, finished⟩ := ended_stored ended stored
  have row := mem_rows_of_finished sound.ledger.orderly finished
  obtain ⟨-, rfl⟩ := mem_rows.mp row
  exact ⟨claim, row, finished, place⟩

theorem slot_empty (sound : crew.Sound origin state) (ended : state.Ended) {slot : Nat}
    (inside : slot < crew.items.length) :
    state.slots[slot]? = some none ↔
      ∀ claim outcome, (claim, outcome) ∈ finishes state.history →
        slot? claim.item.index crew.items.length ≠ some slot := by
  constructor
  · intro empty claim outcome finished place
    obtain ⟨other, outcome, same, filled⟩ :=
      sound.filled.kept claim (Or.inr ⟨_, mem_finishes.mp finished, rfl⟩)
    cases place.symm.trans same
    rw [empty] at filled
    cases filled
  · intro unwritten
    rw [← sound.filled.slot_count] at inside
    cases held : state.slots[slot] with
    | none => rw [List.getElem?_eq_getElem inside, held]
    | some outcome =>
        obtain ⟨claim, -, finished, place⟩ := slot_filled sound ended
          (by rw [List.getElem?_eq_getElem inside, held])
        exact absurd place (unwritten claim outcome finished)

theorem emptySlots_unwritten (sound : crew.Sound origin state) (ended : state.Ended) :
    state.emptySlots = crew.unwritten state.history := by
  rw [State.emptySlots, Crew.unwritten, sound.filled.slot_count]
  apply List.filter_congr
  intro slot member
  rw [Bool.eq_iff_iff, decide_eq_true_eq, slot_empty sound ended (List.mem_range.mp member)]
  simp

theorem slots_of_full (slots : List (Option Outcome)) (full : none ∉ slots) :
    slots = (slots.filterMap id).map some := by
  induction slots with
  | nil => rfl
  | cons held rest ih =>
      cases held with
      | none => exact absurd List.mem_cons_self full
      | some outcome =>
          have tail := ih fun member => full (List.mem_cons_of_mem _ member)
          simpa using tail

theorem full_of_emptySlots (none_empty : state.emptySlots = []) : none ∉ state.slots := by
  intro member
  obtain ⟨slot, here⟩ := List.mem_iff_getElem?.mp member
  have inside := (List.getElem?_eq_some_iff.mp here).1
  have filled := List.filter_eq_nil_iff.mp none_empty slot (List.mem_range.mpr inside)
  exact filled (decide_eq_true here)

theorem collect_accounts (sound : crew.Sound origin state) (ended : state.Ended) :
    crew.Accounts state.history state.collect := by
  by_cases full : state.emptySlots = []
  · have same := slots_of_full state.slots (full_of_emptySlots full)
    rw [collect_filled same]
    refine ⟨?_, fun slot outcome here => slot_filled sound ended ?_⟩
    · rw [← sound.filled.slot_count, ← List.length_map some, ← same]
    · rw [same, List.getElem?_map, here]
      rfl
  · have failed : state.collect = .error (.emptySlots state.emptySlots) := by
      unfold State.collect
      split
      case h_1 none => exact absurd none full
      case h_2 => rfl
    rw [failed, emptySlots_unwritten sound ended]
    exact ⟨emptySlots_unwritten sound ended ▸ full, rfl⟩

theorem runAlong_eq (crew : Crew σ) {concurrency : Int} (positive : 1 ≤ concurrency) (schedule : List Nat)
    (surroundings : σ) :
    let final := crew.complete schedule (crewSize concurrency crew.items.length)
      (crew.begin concurrency surroundings)
    ∃ later, crew.runAlong schedule (.whole concurrency) surroundings =
      ({ final with surroundings := later }, final.collect) := by
  intro final
  have enough : ¬ (Amount.whole concurrency).isBelow 1 = true := by
    simp only [Amount.isBelow, decide_eq_true_eq]
    omega
  have same : crew.complete schedule (crewSize concurrency crew.items.length)
      (crew.log (startEntry crew.items.length (.whole (crewSize concurrency crew.items.length)))
        surroundings) = final := rfl
  simp only [Crew.runAlong, if_neg enough, size_whole positive, Int.toNat_natCast, same]
  cases final.collect <;> exact ⟨_, rfl⟩

/-- Whatever the indices are, along every schedule a run ends with no item executed twice and each slot
accounted for. With fewer astray items than workers every item was executed. -/
theorem every_slot_accounted (crew : Crew σ) (concurrency : Int) (surroundings : σ)
    (schedule : List Nat) (positive : 1 ≤ concurrency)
    (heard : ∀ happening surroundings, (crew.tell happening surroundings).2 = true) :
    let run := crew.runAlong schedule (.whole concurrency) surroundings
    run.1.Ended ∧ (executions run.1.history).Subperm crew.claims ∧
      crew.Accounts run.1.history run.2 ∧
      (crew.items.countP crew.isAstray < crewSize concurrency crew.items.length →
        (executions run.1.history).Perm crew.claims) := by
  intro run
  let origin := crew.begin concurrency surroundings
  let workers := crewSize concurrency crew.items.length
  have hears : crew.Hears origin := fun _ happening _ => heard happening _
  have sound := complete_sound hears workers schedule
  have ended := complete_ended crew schedule workers origin
  have accounted := collect_accounts sound ended
  have executed (few : crew.items.countP crew.isAstray < workers) :=
    executions_perm sound ended (complete_emptied hears schedule few)
  obtain ⟨later, result⟩ := runAlong_eq crew positive schedule surroundings
  rw [show run = _ from result]
  exact ⟨ended, executions_subperm sound.ledger.orderly, accounted, executed⟩

def strayBlocks : Crew Unit :=
  let block (line : Nat) : Block := { (default : Block) with line }
  { items := [⟨block 1, "a.md:1", 1⟩, ⟨block 5, "a.md:5", -2⟩, ⟨block 9, "a.md:9", 3⟩]
    execute := fun block => .ok (.pass block "fine" 7)
    elapsed := 3
    tell := fun _ surroundings => (surroundings, true)
    log := fun _ surroundings => surroundings }

theorem every_slot_accounted_stray_blocks :
    (1 : Int) ≤ 2 ∧
      (∀ happening surroundings, (strayBlocks.tell happening surroundings).2 = true) ∧
      (executions (strayBlocks.runAlong [1, 0, 0, 1] (.whole 2) ()).1.history).Perm
        strayBlocks.claims ∧
      (strayBlocks.runAlong [1, 0, 0, 1] (.whole 2) ()).2 = .error (.emptySlots [0, 2]) := by
  obtain ⟨-, -, -, executed⟩ := every_slot_accounted strayBlocks 2 () [1, 0, 0, 1] (by decide)
    (fun _ _ => rfl)
  exact ⟨by decide, fun _ _ => rfl, executed (by decide), rfl⟩

end

end Pool

end FenceCheck

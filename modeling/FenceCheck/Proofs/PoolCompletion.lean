import FenceCheck.Proofs.PoolInvariant

/-!
How a run of a pool ends. If every index has a slot, no worker is lost, and no more items are between
claim and finish than there are workers. If every index is the item's position, a run that ended has
gone through the whole life of every item, and its outcomes are those of the items in their order.
-/

namespace FenceCheck

namespace Pool

section

variable {σ : Type}

/-- The positions that were claimed and not finished. -/
def State.underway (state : State σ) : List Nat :=
  (List.range state.cursor).filter fun position =>
    (about position state.history).all fun happening => happening.finished?.isNone

variable (crew : Crew σ)

/-- Every index has a slot. -/
def Crew.Placed : Prop := ∀ item ∈ crew.items, slot? item.index crew.items.length ≠ none

/-- Every index is the item's position. -/
def Crew.Indexed : Prop :=
  ∀ (position : Nat) (item : Item), crew.items[position]? = some item → item.index = position

variable {crew} {origin : σ} {state next : State σ} {worker : Nat}

theorem slot_of_position {position count : Nat} (inside : position < count) :
    slot? position count = some position := by
  simp [slot?, inside]

theorem Crew.Indexed.slot (indexed : crew.Indexed) {position : Nat} {item : Item}
    (here : crew.items[position]? = some item) :
    slot? item.index crew.items.length = some position := by
  rw [indexed position item here]
  exact slot_of_position (List.getElem?_eq_some_iff.mp here).1

theorem Crew.Indexed.placed (indexed : crew.Indexed) : crew.Placed := by
  intro item member none
  obtain ⟨position, here⟩ := List.mem_iff_getElem?.mp member
  rw [indexed.slot here] at none
  cases none

theorem Crew.Placed.life (placed : crew.Placed) (claim : Claim)
    (item : crew.items[claim.position]? = some claim.item)
    (finished : crew.Over state.history claim) :
    about claim.position state.history = crew.life claim := by
  rcases finished with whole | ⟨none, -⟩
  · exact whole
  · exact absurd none (placed claim.item (List.mem_of_getElem? item))

/-! No worker is added, and none is lost. -/

theorem step_stage_count (step : crew.Step worker state next) :
    next.stages.length = state.stages.length := by
  cases step <;> simp [State.move, Crew.afterTelling]

theorem play_stage_count (schedule : List Nat) (state : State σ) :
    (crew.play state schedule).stages.length = state.stages.length :=
  play_keeps (fun _ _ _ same step => (step_stage_count step).trans same) schedule state rfl

theorem telling_unlost {before after : Stage} {happening : Happening}
    (told : crew.telling before = some (happening, after)) : after ≠ .lost := by
  rintro rfl
  cases before <;> cases told

theorem step_unlost (hears : crew.Hears origin) (placed : crew.Placed)
    (kept : crew.Sound origin state ∧ .lost ∉ state.stages)
    (step : crew.Step worker state next) : crew.Sound origin next ∧ .lost ∉ next.stages := by
  obtain ⟨sound, unlost⟩ := kept
  refine ⟨step_sound hears sound step, fun lost => ?_⟩
  have other {after : Stage} (member : .lost ∈ state.stages.set worker after) : after = .lost :=
    (List.mem_or_eq_of_mem_set member).elim (fun old => absurd old unlost) Eq.symm
  cases step with
  | claim idle left => cases other lost
  | leave idle left => cases other lost
  | @tell before after happening here told =>
      rw [afterTelling_heard after (sound.heard hears here told)] at lost
      exact telling_unlost told (other lost)
  | store here place => cases other lost
  | @miss claim outcome here place =>
      obtain ⟨-, item, -⟩ := sound.ledger.held worker claim _ ((holds_here here _ _).mpr rfl)
      rw [sound.filled.slot_count] at place
      exact placed claim.item (List.mem_of_getElem? item) place

theorem start_unlost (workers : Nat) (origin : σ) :
    crew.Sound origin (State.start crew workers origin) ∧
      .lost ∉ (State.start crew workers origin).stages :=
  ⟨sound_start workers origin, fun lost => nomatch (List.mem_replicate.mp lost).2⟩

theorem complete_unlost (hears : crew.Hears origin) (placed : crew.Placed) (workers : Nat)
    (schedule : List Nat) : .lost ∉ (crew.complete schedule workers origin).stages :=
  (complete_keeps (fun _ _ _ => step_unlost hears placed) schedule workers origin
    (start_unlost workers origin)).2

theorem complete_stage_count (crew : Crew σ) (schedule : List Nat) (workers : Nat) (origin : σ) :
    (crew.complete schedule workers origin).stages.length = workers := by
  apply complete_keeps (fun _ _ _ same step => (step_stage_count step).trans same)
  exact List.length_replicate

/-! Every item under way is in the hands of some worker. -/

theorem underway_held (sound : crew.Sound origin state) (placed : crew.Placed) {position : Nat}
    (underway : position ∈ state.underway) :
    position ∈ state.stages.filterMap fun stage => stage.record?.map (·.1.position) := by
  obtain ⟨range, unfinished⟩ := List.mem_filter.mp underway
  have below := List.mem_range.mp range
  have bound := Nat.lt_of_lt_of_le below sound.ledger.cursor_bound
  have item := List.getElem?_eq_getElem bound
  -- If nobody held the item its life would be over, and a finish would have been told of it.
  by_contra free
  have finished := sound.ledger.settled ⟨position, crew.items[position]⟩ below item (by
    rintro worker held told ⟨stage, here, record⟩ same
    exact free (List.mem_filterMap.mpr
      ⟨stage, List.mem_of_getElem? here, by simp [record, same]⟩))
  rw [placed.life _ item finished] at unfinished
  simp [Crew.life, Happening.finished?] at unfinished

theorem underway_bound (sound : crew.Sound origin state) (placed : crew.Placed) :
    state.underway.length ≤ state.stages.length := by
  have distinct : state.underway.Nodup := List.nodup_range.filter _
  calc state.underway.length
      ≤ (state.stages.filterMap fun stage => stage.record?.map (·.1.position)).length :=
        distinct.length_le_of_subset fun _ member => underway_held sound placed member
    _ ≤ state.stages.length := List.length_filterMap_le _ _

/-! At the end no item is left and every life is over. -/

theorem ended_cursor (sound : crew.Sound origin state) (ended : state.Ended)
    (unlost : .lost ∉ state.stages)
    (manned : 0 < state.stages.length ∨ crew.items.length = 0) :
    state.cursor = crew.items.length := by
  rcases manned with some | none
  · obtain ⟨stage, member⟩ := List.exists_mem_of_length_pos some
    rcases ended stage member with rfl | rfl
    · exact sound.ledger.emptied member
    · exact absurd member unlost
  · have bound := sound.ledger.cursor_bound
    omega

theorem ended_over (sound : crew.Sound origin state) (ended : state.Ended)
    (emptied : state.cursor = crew.items.length) {claim : Claim}
    (item : crew.items[claim.position]? = some claim.item) : crew.Over state.history claim := by
  apply sound.ledger.settled claim (emptied ▸ (List.getElem?_eq_some_iff.mp item).1) item
  rintro worker held told ⟨stage, here, record⟩
  rcases ended stage (List.mem_of_getElem? here) with rfl | rfl <;> cases record

theorem history_inside (sound : crew.Sound origin state) {happening : Happening}
    (member : happening ∈ state.history) : happening.position < crew.items.length :=
  (List.getElem?_eq_some_iff.mp (orderly_mem sound.ledger.orderly member).1).1

theorem slots_exact (indexed : crew.Indexed) (sound : crew.Sound origin state)
    (lives : ∀ position item, crew.items[position]? = some item →
      about position state.history = crew.life ⟨position, item⟩) :
    state.slots = (crew.items.map fun item => crew.outcomeOf item.block).map some := by
  apply List.ext_getElem?
  intro position
  cases here : crew.items[position]? with
  | none =>
      have outside := List.getElem?_eq_none_iff.mp here
      rw [← sound.filled.slot_count] at outside
      simp [List.getElem?_eq_none outside, here]
  | some item =>
      have finished : Happening.finished ⟨position, item⟩ (crew.outcomeOf item.block) ∈
          state.history := by
        have member : Happening.finished ⟨position, item⟩ (crew.outcomeOf item.block) ∈
            about position state.history := by
          rw [lives position item here]
          simp [Crew.life]
        exact (mem_about.mp member).1
      obtain ⟨slot, outcome, place, filled⟩ :=
        sound.filled.kept ⟨position, item⟩ (Or.inr ⟨_, finished, rfl⟩)
      rw [indexed.slot here] at place
      cases place
      -- The slot was filled for some item, and only the one at this position has this slot.
      obtain ⟨owner, -, owned, ownerPlace, rfl⟩ := sound.filled.genuine position outcome filled
      rw [indexed.slot owned] at ownerPlace
      cases ownerPlace
      rw [here] at owned
      cases owned
      simp [filled, here]

theorem collect_filled {outcomes : List Outcome} (filled : state.slots = outcomes.map some) :
    state.collect = .ok outcomes := by
  have full : state.emptySlots = [] := by
    apply List.filter_eq_nil_iff.mpr
    intro slot _
    simp [filled]
  rw [State.collect, full, filled, List.filterMap_map]
  exact congrArg Except.ok List.filterMap_some

theorem complete_lives (hears : crew.Hears origin) (indexed : crew.Indexed) {workers : Nat}
    (manned : 0 < workers ∨ crew.items.length = 0) (schedule : List Nat) (position : Nat)
    (item : Item) (here : crew.items[position]? = some item) :
    about position (crew.complete schedule workers origin).history =
      crew.life ⟨position, item⟩ := by
  have sound := complete_sound hears workers schedule
  have ended := complete_ended crew schedule workers origin
  have unlost := complete_unlost hears indexed.placed workers schedule
  rw [← complete_stage_count crew schedule workers origin] at manned
  have emptied := ended_cursor sound ended unlost manned
  exact indexed.placed.life ⟨position, item⟩ here (ended_over sound ended emptied here)

theorem complete_collect (hears : crew.Hears origin) (indexed : crew.Indexed) {workers : Nat}
    (manned : 0 < workers ∨ crew.items.length = 0) (schedule : List Nat) :
    (crew.complete schedule workers origin).collect =
      .ok (crew.items.map fun item => crew.outcomeOf item.block) :=
  collect_filled (slots_exact indexed (complete_sound hears workers schedule)
    (complete_lives hears indexed manned schedule))

/-! The finishes of a run are those of its items, in some order. -/

def Happening.finish? : Happening → Option (Claim × Outcome)
  | .finished claim outcome => some (claim, outcome)
  | .started _ | .executed _ => none

def finishes (history : List Happening) : List (Claim × Outcome) :=
  history.filterMap Happening.finish?

def Crew.rows (crew : Crew σ) : List (Claim × Outcome) :=
  crew.items.zipIdx.map fun (item, position) => (⟨position, item⟩, crew.outcomeOf item.block)

theorem mem_finishes {history : List Happening} {claim : Claim} {outcome : Outcome} :
    (claim, outcome) ∈ finishes history ↔ .finished claim outcome ∈ history := by
  constructor
  · intro member
    obtain ⟨happening, here, finish⟩ := List.mem_filterMap.mp member
    cases happening <;> cases finish
    exact here
  · exact fun here => List.mem_filterMap.mpr ⟨_, here, rfl⟩

theorem finishes_nodup {history : List Happening} (distinct : history.Nodup) :
    (finishes history).Nodup := by
  refine distinct.filterMap ?_
  intro one other row mine yours
  cases one <;> cases mine
  cases other <;> cases yours
  rfl

theorem rows_nodup (crew : Crew σ) : crew.rows.Nodup := by
  apply List.Nodup.of_map fun row => row.1.position
  have positions : crew.rows.map (fun row => row.1.position) = crew.items.zipIdx.map Prod.snd := by
    simp [Crew.rows, Function.comp_def]
  rw [positions, List.zipIdx_map_snd]
  exact List.nodup_range'

theorem mem_rows {claim : Claim} {outcome : Outcome} :
    (claim, outcome) ∈ crew.rows ↔
      crew.items[claim.position]? = some claim.item ∧
        outcome = crew.outcomeOf claim.item.block := by
  constructor
  · intro member
    obtain ⟨⟨item, position⟩, here, same⟩ := List.mem_map.mp member
    cases same
    exact ⟨List.mem_zipIdx_iff_getElem?.mp here, rfl⟩
  · rintro ⟨here, rfl⟩
    exact List.mem_map.mpr ⟨(claim.item, claim.position), List.mem_zipIdx_iff_getElem?.mpr here, rfl⟩

theorem mem_rows_of_finished {history : List Happening} (orderly : crew.Orderly history)
    {claim : Claim} {outcome : Outcome} (member : (claim, outcome) ∈ finishes history) :
    (claim, outcome) ∈ crew.rows := by
  obtain ⟨item, told⟩ := orderly_mem orderly (mem_finishes.mp member)
  refine mem_rows.mpr ⟨item, ?_⟩
  simpa [Crew.life, Happening.claim] using told

theorem rows_outcomes (crew : Crew σ) :
    crew.rows.map (fun row => (row.1.item, row.2)) =
      crew.items.zip (crew.items.map fun item => crew.outcomeOf item.block) := by
  have items : crew.rows.map (fun row => (row.1.item, row.2)) =
      (crew.items.zipIdx.map Prod.fst).map fun item => (item, crew.outcomeOf item.block) := by
    rw [Crew.rows, List.map_map, List.map_map]
    rfl
  rw [items, List.zipIdx_map_fst, List.zip_map_right, List.zip_eq_zipWith]
  simp

theorem complete_finishes (hears : crew.Hears origin) (indexed : crew.Indexed) {workers : Nat}
    (manned : 0 < workers ∨ crew.items.length = 0) (schedule : List Nat) :
    (finishes (crew.complete schedule workers origin).history).Perm crew.rows := by
  have sound := complete_sound hears workers schedule
  have orderly := sound.ledger.orderly
  refine (List.perm_ext_iff_of_nodup (finishes_nodup (orderly_nodup orderly))
    (rows_nodup crew)).mpr ?_
  rintro ⟨claim, outcome⟩
  constructor
  · exact mem_rows_of_finished orderly
  · intro row
    obtain ⟨here, rfl⟩ := mem_rows.mp row
    have life := complete_lives hears indexed manned schedule claim.position claim.item here
    have told : .finished claim (crew.outcomeOf claim.item.block) ∈
        about claim.position (crew.complete schedule workers origin).history := by
      simp [life, Crew.life]
    exact mem_finishes.mpr (mem_about.mp told).1

/-! The whole run: the number of its workers and what it gives. -/

def crewSize (concurrency : Int) (count : Nat) : Nat := (min concurrency count).toNat

theorem size_whole {concurrency : Int} (positive : 1 ≤ concurrency) (count : Nat) :
    size (.whole concurrency) count = .whole (crewSize concurrency count) := by
  simp only [size, Amount.isAbove, decide_eq_true_eq, crewSize]
  split
  case isTrue above => rw [Int.min_eq_right (by omega), Int.toNat_natCast]
  case isFalse below => rw [Int.min_eq_left (by omega), Int.toNat_of_nonneg (by omega)]

theorem crewSize_manned {concurrency : Int} (positive : 1 ≤ concurrency) (count : Nat) :
    0 < crewSize concurrency count ∨ count = 0 := by
  unfold crewSize
  omega

def Crew.begin (crew : Crew σ) (concurrency : Int) (surroundings : σ) : σ :=
  crew.log (startEntry crew.items.length (.whole (crewSize concurrency crew.items.length)))
    surroundings

/-- Any run gives the outcomes of the items in their order. -/
theorem runAlong_collects {concurrency : Int} (positive : 1 ≤ concurrency) {surroundings : σ}
    (hears : crew.Hears (crew.begin concurrency surroundings)) (indexed : crew.Indexed)
    (schedule : List Nat) :
    crew.runAlong schedule (.whole concurrency) surroundings =
      (let state := crew.complete schedule (crewSize concurrency crew.items.length)
        (crew.begin concurrency surroundings)
      ({ state with
          surroundings := crew.log (finishEntry crew.items.length) state.surroundings },
        .ok (crew.items.map fun item => crew.outcomeOf item.block))) := by
  have enough : ¬ (Amount.whole concurrency).isBelow 1 = true := by
    simp only [Amount.isBelow, decide_eq_true_eq]
    omega
  have collected := complete_collect hears indexed
    (crewSize_manned positive crew.items.length) schedule
  simp only [Crew.runAlong, if_neg enough, size_whole positive, Int.toNat_natCast]
  unfold Crew.begin at collected ⊢
  rw [collected]

theorem advance_of_ended (fuel : Nat) (ended : state.Ended) : crew.advance fuel state = state := by
  cases fuel with
  | zero => rfl
  | succ fuel =>
      have stuck : crew.firstStep? state = none := by
        apply List.findSome?_eq_none_iff.mpr
        intro worker _
        cases here : state.stages[worker]? with
        | none => simp [Crew.step?, here]
        | some stage =>
            rcases ended stage (List.mem_of_getElem? here) with rfl | rfl <;>
              simp [Crew.step?, here]
      simp [Crew.advance, stuck]

/-- Along every schedule of its workers a run ends with each item started, executed and finished once,
in this order, with never more items under way than there are workers, and it gives the outcomes of
the items in their order. A schedule that already led to the end is not gone beyond. -/
theorem every_schedule_completes (crew : Crew σ) (concurrency : Int) (surroundings : σ)
    (schedule : List Nat) (positive : 1 ≤ concurrency) (indexed : crew.Indexed)
    (heard : ∀ happening surroundings, (crew.tell happening surroundings).2 = true) :
    let count := crew.items.length
    let origin := crew.begin concurrency surroundings
    let state := crew.play (State.start crew (crewSize concurrency count) origin) schedule
    let final := crew.complete schedule (crewSize concurrency count) origin
    state.underway.length ≤ crewSize concurrency count ∧
      final.Ended ∧ (state.Ended → final = state) ∧
      (∀ position item, crew.items[position]? = some item →
        about position final.history =
          [.started ⟨position, item⟩, .executed ⟨position, item⟩,
            .finished ⟨position, item⟩ (crew.outcomeOf item.block)]) ∧
      (∀ happening ∈ final.history, happening.position < count) ∧
      final.surroundings = crew.after origin final.history ∧
      crew.runAlong schedule (.whole concurrency) surroundings =
        ({ final with surroundings := crew.log (finishEntry count) final.surroundings },
          .ok (crew.items.map fun item => crew.outcomeOf item.block)) := by
  intro count origin state final
  have hears (origin : σ) : crew.Hears origin := fun _ happening _ => heard happening _
  have manned := crewSize_manned positive count
  have sound := complete_sound (hears origin) (crewSize concurrency count) schedule
  refine ⟨?_, complete_ended crew schedule _ origin, advance_of_ended _,
    complete_lives (hears origin) indexed manned schedule, fun _ => history_inside sound,
    sound.told, runAlong_collects positive (hears _) indexed schedule⟩
  -- No worker is added or taken away on the way.
  have workers : state.stages.length = crewSize concurrency count :=
    (play_stage_count schedule _).trans List.length_replicate
  rw [← workers]
  exact underway_bound (play_sound (hears origin) _ schedule) indexed.placed

def twoBlocks : Crew Unit :=
  let passing : Block := { (default : Block) with line := 1 }
  let raising : Block := { (default : Block) with line := 5 }
  { items := [⟨passing, "a.md:1", 0⟩, ⟨raising, "a.md:5", 1⟩]
    execute := fun block => if block.line = 1 then .ok (.pass block "one" 7) else .error "boom"
    elapsed := 3
    tell := fun _ surroundings => (surroundings, true)
    log := fun _ surroundings => surroundings }

theorem twoBlocks_indexed : twoBlocks.Indexed := by
  intro position item here
  match position, here with
  | 0, rfl => rfl
  | 1, rfl => rfl

theorem every_schedule_completes_two_blocks :
    (1 : Int) ≤ 2 ∧ twoBlocks.Indexed ∧
      (∀ happening surroundings, (twoBlocks.tell happening surroundings).2 = true) ∧
      (twoBlocks.runAlong [1, 0, 0, 1, 0] (.whole 2) ()).2 =
        .ok [.pass { (default : Block) with line := 1 } "one" 7,
          .fail { (default : Block) with line := 5 } "internal error: boom" 3 false] := by
  refine ⟨by decide, twoBlocks_indexed, fun _ _ => rfl, ?_⟩
  obtain ⟨-, -, -, -, -, -, result⟩ := every_schedule_completes twoBlocks 2 () [1, 0, 0, 1, 0]
    (by decide) twoBlocks_indexed (fun _ _ => rfl)
  rw [result]
  rfl

end

end Pool

end FenceCheck

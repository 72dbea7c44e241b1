import FenceCheck.Proofs.PoolLedger

/-!
What holds of a pool in every state of every run. The ledger is kept, the slots hold the outcomes of
the items that were stored and nothing else, and what follows the work has followed exactly the
history. A worker is heard if what it tells fits the lives of the items; that suffices here, since the
ledger keeps the history orderly.
-/

namespace FenceCheck

namespace Pool

def Stage.stored? : Stage → Option Claim
  | .stored claim _ => some claim
  | .idle | .claimed _ | .started _ | .executed .. | .ended | .lost => none

def Happening.finished? : Happening → Option Claim
  | .finished claim _ => some claim
  | .started _ | .executed _ => none

/-- The outcome of a claim was put into its slot. -/
def Stored (stages : List Stage) (history : List Happening) (claim : Claim) : Prop :=
  (∃ stage ∈ stages, stage.stored? = some claim) ∨
    ∃ happening ∈ history, happening.finished? = some claim

section

variable {stages : List Stage} {history more : List Happening} {worker : Nat}
  {before : Stage} {claim : Claim}

theorem stored_before (after : Stage) (later : Stored (stages.set worker after) (history ++ more) claim) :
    Stored stages history claim ∨ after.stored? = some claim ∨
      ∃ happening ∈ more, happening.finished? = some claim := by
  rcases later with ⟨stage, member, stored⟩ | ⟨happening, member, finished⟩
  · rcases List.mem_or_eq_of_mem_set member with old | rfl
    · exact Or.inl (Or.inl ⟨stage, old, stored⟩)
    · exact Or.inr (Or.inl stored)
  · rcases List.mem_append.mp member with old | new
    · exact Or.inl (Or.inr ⟨happening, old, finished⟩)
    · exact Or.inr (Or.inr ⟨happening, new, finished⟩)

theorem stored_after (after : Stage) (more : List Happening) (here : stages[worker]? = some before)
    (handed : before.stored? = some claim → ∃ happening ∈ more, happening.finished? = some claim)
    (stored : Stored stages history claim) :
    Stored (stages.set worker after) (history ++ more) claim := by
  rcases stored with ⟨stage, member, stored⟩ | ⟨happening, member, finished⟩
  · obtain ⟨other, there⟩ := List.mem_iff_getElem?.mp member
    by_cases same : other = worker
    · subst other
      rw [here] at there
      cases there
      obtain ⟨happening, new, finished⟩ := handed stored
      exact Or.inr ⟨happening, List.mem_append_right history new, finished⟩
    · refine Or.inl ⟨stage, List.mem_iff_getElem?.mpr ⟨other, ?_⟩, stored⟩
      rw [List.getElem?_set_ne (Ne.symm same), there]
  · exact Or.inr ⟨happening, List.mem_append_left more member, finished⟩

end

section

variable {σ : Type} (crew : Crew σ)

/-- Every slot that is filled holds the outcome of a stored item whose index denotes it, and every
stored item has filled its slot. -/
structure Crew.Filled (slots : List (Option Outcome)) (stages : List Stage)
    (history : List Happening) : Prop where
  slot_count : slots.length = crew.items.length
  genuine : ∀ slot outcome, slots[slot]? = some (some outcome) →
    ∃ claim, Stored stages history claim ∧ crew.items[claim.position]? = some claim.item ∧
      slot? claim.item.index crew.items.length = some slot ∧
      outcome = crew.outcomeOf claim.item.block
  kept : ∀ claim, Stored stages history claim →
    ∃ slot outcome, slot? claim.item.index crew.items.length = some slot ∧
      slots[slot]? = some (some outcome)

def Crew.after (origin : σ) (history : List Happening) : σ :=
  history.foldl (fun surroundings happening => (crew.tell happening surroundings).1) origin

/-- Whatever fits the lives of the items is heard. -/
def Crew.Hears (origin : σ) : Prop :=
  ∀ history happening, crew.Orderly (history ++ [happening]) →
    (crew.tell happening (crew.after origin history)).2 = true

structure Crew.Sound (origin : σ) (state : State σ) : Prop where
  ledger : crew.Ledger state.cursor state.stages state.history
  filled : crew.Filled state.slots state.stages state.history
  told : state.surroundings = crew.after origin state.history

variable {crew} {origin : σ} {state next : State σ} {worker : Nat}
  {slots : List (Option Outcome)} {cursor : Nat} {stages : List Stage}
  {history : List Happening} {before after : Stage}

theorem after_append (origin : σ) (history : List Happening) (happening : Happening) :
    crew.after origin (history ++ [happening]) =
      (crew.tell happening (crew.after origin history)).1 := by
  simp [Crew.after]

theorem filled_start (workers : Nat) :
    crew.Filled (List.replicate crew.items.length none) (List.replicate workers .idle) [] where
  slot_count := List.length_replicate
  genuine := by
    intro slot outcome holds
    have member := List.mem_of_getElem? holds
    cases (List.mem_replicate.mp member).2
  kept := by
    rintro claim (⟨stage, member, stored⟩ | ⟨happening, member, -⟩)
    · cases (List.mem_replicate.mp member).2
      cases stored
    · cases member

theorem sound_start (workers : Nat) (origin : σ) :
    crew.Sound origin (State.start crew workers origin) :=
  ⟨ledger_start workers, filled_start workers, rfl⟩

theorem filled_keep (after : Stage) (more : List Happening) (filled : crew.Filled slots stages history)
    (here : stages[worker]? = some before)
    (handed : ∀ claim, before.stored? = some claim ↔
      after.stored? = some claim ∨ ∃ happening ∈ more, happening.finished? = some claim) :
    crew.Filled slots (stages.set worker after) (history ++ more) where
  slot_count := filled.slot_count
  genuine := by
    intro slot outcome holds
    obtain ⟨claim, stored, known⟩ := filled.genuine slot outcome holds
    by_cases mine : after.stored? = some claim
    · have bound := (List.getElem?_eq_some_iff.mp here).1
      exact ⟨claim, Or.inl ⟨after, List.mem_set bound after, mine⟩, known⟩
    · refine ⟨claim, stored_after after more here (fun stored => ?_) stored, known⟩
      exact ((handed claim).mp stored).resolve_left mine
  kept := by
    intro claim later
    apply filled.kept
    rcases stored_before after later with old | new
    · exact old
    · exact Or.inl ⟨before, List.mem_of_getElem? here, (handed claim).mpr new⟩

theorem filled_store {claim : Claim} {slot : Nat} (filled : crew.Filled slots stages history)
    (here : stages[worker]? = some (.executed claim (crew.outcomeOf claim.item.block)))
    (item : crew.items[claim.position]? = some claim.item)
    (place : slot? claim.item.index slots.length = some slot) (inside : slot < slots.length) :
    crew.Filled (slots.set slot (some (crew.outcomeOf claim.item.block)))
      (stages.set worker (.stored claim (crew.outcomeOf claim.item.block))) history := by
  have bound := (List.getElem?_eq_some_iff.mp here).1
  have place : slot? claim.item.index crew.items.length = some slot := filled.slot_count ▸ place
  have stays (other : Claim) (stored : Stored stages history other) :
      Stored (stages.set worker (.stored claim (crew.outcomeOf claim.item.block))) history other := by
    have later := stored_after (.stored claim (crew.outcomeOf claim.item.block)) [] here
      (by simp [Stage.stored?]) stored
    simpa using later
  constructor
  case slot_count => simpa using filled.slot_count
  case genuine =>
      intro other outcome holds
      -- Another item may have the same index; then the outcome that is stored last stays.
      by_cases same : other = slot
      · subst other
        rw [List.getElem?_set_self inside] at holds
        cases holds
        exact ⟨claim, Or.inl ⟨_, List.mem_set bound _, rfl⟩, item, place, rfl⟩
      · rw [List.getElem?_set_ne (Ne.symm same)] at holds
        obtain ⟨owner, stored, known⟩ := filled.genuine other outcome holds
        exact ⟨owner, stays owner stored, known⟩
  case kept =>
      intro other later
      rw [← List.append_nil history] at later
      rcases stored_before _ later with old | mine | ⟨_, none, _⟩
      · obtain ⟨otherSlot, outcome, otherPlace, holds⟩ := filled.kept other old
        by_cases same : otherSlot = slot
        · subst otherSlot
          exact ⟨slot, _, otherPlace, List.getElem?_set_self inside⟩
        · refine ⟨otherSlot, outcome, otherPlace, ?_⟩
          rw [List.getElem?_set_ne (Ne.symm same), holds]
      · cases mine
        exact ⟨slot, _, place, List.getElem?_set_self inside⟩
      · cases none

theorem slot_inside {index : Int} {count slot : Nat} (place : slot? index count = some slot) :
    slot < count := by
  unfold slot? at place
  split at place
  case isTrue inside =>
      cases place
      omega
  case isFalse =>
      split at place
      case isTrue inside =>
          cases place
          omega
      case isFalse => cases place

theorem ledger_tell {happening : Happening} (ledger : crew.Ledger cursor stages history)
    (here : stages[worker]? = some before)
    (told : crew.telling before = some (happening, after)) :
    crew.Ledger cursor (stages.set worker after) (history ++ [happening]) := by
  cases before with
  | claimed claim =>
      cases told
      exact ledger_carry _ _ ledger here rfl rfl (by simp [Happening.position, Happening.claim])
        (by simp [Stage.outcome?])
  | started claim =>
      cases told
      refine ledger_carry _ _ ledger here rfl rfl (by simp [Happening.position, Happening.claim]) ?_
      intro outcome inHand
      cases inHand
      rfl
  | stored claim outcome =>
      cases told
      -- The outcome has been in hand since the execution and is what the finish reports.
      have right := ledger.outcome _ (List.mem_of_getElem? here) claim outcome rfl
      obtain ⟨-, -, known⟩ := ledger.held worker claim _ ((holds_here here _ _).mpr rfl)
      refine ledger_release _ _ ledger here rfl rfl (by simp)
        (by simp [Happening.position, Happening.claim]) (Or.inl ?_)
      rw [about_told known (by simp [Happening.position, Happening.claim]), if_pos rfl, right]
      rfl
  | idle | executed | ended | lost => cases told

theorem telling_stored {happening : Happening}
    (told : crew.telling before = some (happening, after)) (claim : Claim) :
    before.stored? = some claim ↔
      after.stored? = some claim ∨ ∃ other ∈ [happening], other.finished? = some claim := by
  cases before <;> cases told <;> simp [Stage.stored?, Happening.finished?]

theorem afterTelling_heard {happening : Happening} (stage : Stage)
    (heard : (crew.tell happening state.surroundings).2 = true) :
    crew.afterTelling state worker happening stage =
      { state with
        history := state.history ++ [happening]
        surroundings := (crew.tell happening state.surroundings).1 }.move worker stage := by
  simp [Crew.afterTelling, heard]

theorem Crew.Sound.heard {happening : Happening} (sound : crew.Sound origin state)
    (hears : crew.Hears origin) (here : state.stages[worker]? = some before)
    (told : crew.telling before = some (happening, after)) :
    (crew.tell happening state.surroundings).2 = true := by
  rw [sound.told]
  exact hears state.history happening (ledger_tell sound.ledger here told).orderly

theorem step_sound (hears : crew.Hears origin) (sound : crew.Sound origin state)
    (step : crew.Step worker state next) : crew.Sound origin next := by
  obtain ⟨ledger, filled, told⟩ := id sound
  cases step with
  | @claim item idle left =>
      refine ⟨ledger_claim ledger idle left, ?_, told⟩
      have keep := filled_keep (.claimed ⟨state.cursor, item⟩) [] filled idle
        (fun claim => by simp [Stage.stored?])
      simpa [State.move] using keep
  | leave idle left =>
      refine ⟨ledger_leave ledger idle left, ?_, told⟩
      have keep := filled_keep .ended [] filled idle
        (fun claim => by simp [Stage.stored?])
      simpa [State.move] using keep
  | @tell stage after happening here telling =>
      rw [afterTelling_heard after (sound.heard hears here telling)]
      refine ⟨ledger_tell ledger here telling,
        filled_keep after [happening] filled here (telling_stored telling), ?_⟩
      simp only [State.move, after_append, told]
  | @store claim outcome slot here place =>
      have right := ledger.outcome _ (List.mem_of_getElem? here) claim outcome rfl
      subst right
      obtain ⟨-, item, -⟩ := ledger.held worker claim _ ((holds_here here _ _).mpr rfl)
      refine ⟨?_, filled_store filled here item place (slot_inside place), told⟩
      have carry := ledger_carry (.stored claim (crew.outcomeOf claim.item.block)) [] ledger here
        rfl rfl (fun happening member => absurd member List.not_mem_nil)
        (by rintro outcome ⟨⟩; rfl)
      simpa [State.move] using carry
  | @miss claim outcome here place =>
      -- The worker goes without a finish, and nobody takes over its item.
      obtain ⟨-, -, known⟩ := ledger.held worker claim _ ((holds_here here _ _).mpr rfl)
      refine ⟨?_, ?_, told⟩
      · have finished : crew.Over (state.history ++ []) claim := by
          refine Or.inr ⟨filled.slot_count ▸ place, ?_⟩
          rw [List.append_nil, known]
        have release := ledger_release .lost [] ledger here rfl rfl
          (by simp) (fun happening member => absurd member List.not_mem_nil) finished
        simpa [State.move] using release
      · have keep := filled_keep .lost [] filled here
          (fun claim => by simp [Stage.stored?])
        simpa [State.move] using keep

theorem play_sound (hears : crew.Hears origin) (workers : Nat) (schedule : List Nat) :
    crew.Sound origin (crew.play (State.start crew workers origin) schedule) :=
  play_keeps (fun _ _ _ sound step => step_sound hears sound step) schedule _
    (sound_start workers origin)

theorem complete_sound (hears : crew.Hears origin) (workers : Nat) (schedule : List Nat) :
    crew.Sound origin (crew.complete schedule workers origin) :=
  complete_keeps (fun _ _ _ sound step => step_sound hears sound step) schedule workers origin
    (sound_start workers origin)

end

end Pool

end FenceCheck

import FenceCheck.Run.Pool
import Mathlib.Data.List.Basic

/-!
The steps of a pool as a relation, and what follows from their shape alone: an invariant of single
steps is one of every schedule, and every run ends. A step of a worker either claims an item, finds
none left, tells of a happening, or stores an outcome where the item's index has a slot.
-/

namespace FenceCheck

namespace Pool

/-- The steps that a worker still takes for what it has in hand, and to find that nothing is left. -/
def Stage.toGo : Stage → Nat
  | .claimed _ => 5
  | .started _ => 4
  | .executed .. => 3
  | .stored .. => 2
  | .idle => 1
  | .ended | .lost => 0

namespace Happening

def claim : Happening → Claim
  | started claim | executed claim | finished claim _ => claim

def position (happening : Happening) : Nat := happening.claim.position

end Happening

section

variable {σ : Type} (crew : Crew σ)

/-- What a worker tells at a stage, and the stage that it goes to if it is heard. -/
def Crew.telling : Stage → Option (Happening × Stage)
  | .claimed claim => some (.started claim, .started claim)
  | .started claim =>
      some (.executed claim, .executed claim (crew.outcomeOf claim.item.block))
  | .stored claim outcome => some (.finished claim outcome, .idle)
  | .idle | .executed .. | .ended | .lost => none

inductive Crew.Step (worker : Nat) (state : State σ) : State σ → Prop where
  | claim {item : Item} (idle : state.stages[worker]? = some .idle)
      (left : crew.items[state.cursor]? = some item) :
      Crew.Step worker state ({ state with cursor := state.cursor + 1 }.move worker
        (.claimed ⟨state.cursor, item⟩))
  | leave (idle : state.stages[worker]? = some .idle)
      (left : crew.items[state.cursor]? = none) :
      Crew.Step worker state (state.move worker .ended)
  | tell {stage after : Stage} {happening : Happening}
      (here : state.stages[worker]? = some stage)
      (told : crew.telling stage = some (happening, after)) :
      Crew.Step worker state (crew.afterTelling state worker happening after)
  | store {claim : Claim} {outcome : Outcome} {slot : Nat}
      (here : state.stages[worker]? = some (.executed claim outcome))
      (place : slot? claim.item.index state.slots.length = some slot) :
      Crew.Step worker state ({ state with slots := state.slots.set slot (some outcome) }.move worker
        (.stored claim outcome))
  | miss {claim : Claim} {outcome : Outcome}
      (here : state.stages[worker]? = some (.executed claim outcome))
      (place : slot? claim.item.index state.slots.length = none) :
      Crew.Step worker state (state.move worker .lost)

def State.Ended (state : State σ) : Prop :=
  ∀ stage ∈ state.stages, stage = .ended ∨ stage = .lost

/-- The steps that workers have to go with the items that they took. -/
def stepsToGo : List Stage → Nat
  | [] => 0
  | stage :: rest => stage.toGo + stepsToGo rest

def Crew.remaining (state : State σ) : Nat :=
  5 * (crew.items.length - state.cursor) + stepsToGo state.stages

variable {crew} {state next : State σ} {worker : Nat}

theorem step_spec (step : crew.step? state worker = some next) : crew.Step worker state next := by
  unfold Crew.step? at step
  split at step
  case h_1 | h_2 | h_3 => contradiction
  case h_4 idle =>
      split at step
      case h_1 item left =>
          cases step
          exact .claim idle left
      case h_2 left =>
          cases step
          exact .leave idle left
  case h_5 claim here =>
      cases step
      exact .tell here rfl
  case h_6 claim here =>
      cases step
      exact .tell here rfl
  case h_7 claim outcome here =>
      split at step
      case h_1 slot place =>
          cases step
          exact .store here place
      case h_2 place =>
          cases step
          exact .miss here place
  case h_8 claim outcome here =>
      cases step
      exact .tell here rfl

theorem step_exists (crew : Crew σ) {stage : Stage} (here : state.stages[worker]? = some stage)
    (working : stage ≠ .ended ∧ stage ≠ .lost) : ∃ next, crew.step? state worker = some next := by
  unfold Crew.step?
  cases stage with
  | idle =>
      rw [here]
      cases left : crew.items[state.cursor]? <;> simp
  | executed claim outcome =>
      rw [here]
      cases place : slot? claim.item.index state.slots.length <;> simp [place]
  | claimed claim | started claim | stored claim outcome => simp [here]
  | ended => exact absurd rfl working.1
  | lost => exact absurd rfl working.2

/-! An invariant of single steps is one of every run. -/

theorem play_keeps {invariant : State σ → Prop}
    (kept : ∀ state worker next, invariant state → crew.Step worker state next → invariant next)
    (schedule : List Nat) (state : State σ) (holds : invariant state) :
    invariant (crew.play state schedule) := by
  induction schedule generalizing state with
  | nil => exact holds
  | cons worker rest ih =>
      refine ih ((crew.step? state worker).getD state) ?_
      cases step : crew.step? state worker with
      | none => exact holds
      | some next => exact kept state worker next holds (step_spec step)

theorem first_step_spec (step : crew.firstStep? state = some next) :
    ∃ worker, crew.Step worker state next := by
  obtain ⟨worker, _, moved⟩ := List.exists_of_findSome?_eq_some step
  exact ⟨worker, step_spec moved⟩

theorem advance_keeps {invariant : State σ → Prop}
    (kept : ∀ state worker next, invariant state → crew.Step worker state next → invariant next)
    (fuel : Nat) (state : State σ) (holds : invariant state) :
    invariant (crew.advance fuel state) := by
  induction fuel generalizing state with
  | zero => exact holds
  | succ fuel ih =>
      simp only [Crew.advance]
      cases step : crew.firstStep? state with
      | none => exact holds
      | some next =>
          obtain ⟨worker, moved⟩ := first_step_spec step
          exact ih next (kept state worker next holds moved)

theorem complete_keeps {invariant : State σ → Prop}
    (kept : ∀ state worker next, invariant state → crew.Step worker state next → invariant next)
    (schedule : List Nat) (workers : Nat) (surroundings : σ)
    (holds : invariant (State.start crew workers surroundings)) :
    invariant (crew.complete schedule workers surroundings) :=
  advance_keeps kept _ _ (play_keeps kept schedule _ holds)

/-! Every step uses up some of the steps that remain, so a run ends. -/

theorem stepsToGo_set {stage : Stage} (stages : List Stage) (worker : Nat) (after : Stage)
    (here : stages[worker]? = some stage) :
    stepsToGo (stages.set worker after) + stage.toGo = stepsToGo stages + after.toGo := by
  induction stages generalizing worker with
  | nil => simp at here
  | cons first rest ih =>
      cases worker with
      | zero =>
          cases here
          simp only [List.set_cons_zero, stepsToGo]
          omega
      | succ worker =>
          have tail := ih worker (by simpa using here)
          simp only [List.set_cons_succ, stepsToGo]
          omega

theorem telling_to_go {stage after : Stage} {happening : Happening}
    (told : crew.telling stage = some (happening, after)) : after.toGo + 1 = stage.toGo := by
  cases stage <;> cases told <;> rfl

theorem step_remaining (step : crew.Step worker state next) :
    crew.remaining next < crew.remaining state := by
  cases step with
  | @claim item idle left =>
      have bound := (List.getElem?_eq_some_iff.mp left).1
      have total := stepsToGo_set state.stages worker (.claimed ⟨state.cursor, item⟩) idle
      simp only [Stage.toGo] at total
      simp only [Crew.remaining, State.move]
      omega
  | leave idle left =>
      have total := stepsToGo_set state.stages worker .ended idle
      simp only [Stage.toGo] at total
      simp only [Crew.remaining, State.move]
      omega
  | @tell stage after happening here told =>
      have less := telling_to_go told
      -- A worker that is refused is lost and goes no further, which only brings the end nearer.
      have heard := stepsToGo_set state.stages worker after here
      have refused : _ = _ + 0 := stepsToGo_set state.stages worker .lost here
      simp only [Crew.remaining, Crew.afterTelling, State.move]
      split <;> omega
  | @store claim outcome slot here place =>
      have total := stepsToGo_set state.stages worker (.stored claim outcome) here
      simp only [Stage.toGo] at total
      simp only [Crew.remaining, State.move]
      omega
  | miss here place =>
      have total := stepsToGo_set state.stages worker .lost here
      simp only [Stage.toGo] at total
      simp only [Crew.remaining, State.move]
      omega

theorem stepsToGo_replicate (workers : Nat) : stepsToGo (List.replicate workers .idle) = workers := by
  induction workers with
  | zero => rfl
  | succ workers ih =>
      rw [List.replicate_succ, stepsToGo, ih, Stage.toGo, Nat.add_comm]

theorem start_remaining (crew : Crew σ) (workers : Nat) (surroundings : σ) :
    crew.remaining (State.start crew workers surroundings) = 5 * crew.items.length + workers := by
  rw [Crew.remaining, State.start, stepsToGo_replicate, Nat.sub_zero]

theorem play_remaining (schedule : List Nat) (state : State σ) :
    crew.remaining (crew.play state schedule) ≤ crew.remaining state :=
  play_keeps (fun _ _ _ bound step => Nat.le_trans (Nat.le_of_lt (step_remaining step)) bound)
    schedule state (Nat.le_refl _)

theorem ended_of_no_step (crew : Crew σ) (state : State σ) (stuck : crew.firstStep? state = none) :
    state.Ended := by
  intro stage member
  by_contra working
  obtain ⟨worker, here⟩ := List.mem_iff_getElem?.mp member
  obtain ⟨next, step⟩ := step_exists crew here (not_or.mp working)
  have bound := (List.getElem?_eq_some_iff.mp here).1
  have none := List.findSome?_eq_none_iff.mp stuck worker (List.mem_range.mpr bound)
  simp [step] at none

theorem advance_ended (fuel : Nat) (state : State σ) (enough : crew.remaining state ≤ fuel) :
    (crew.advance fuel state).Ended := by
  -- With every step taken the fuel and the steps that remain shrink together.
  induction fuel generalizing state with
  | zero =>
      apply ended_of_no_step crew state
      cases step : crew.firstStep? state with
      | none => rfl
      | some next =>
          obtain ⟨worker, moved⟩ := first_step_spec step
          have less := step_remaining moved
          omega
  | succ fuel ih =>
      simp only [Crew.advance]
      cases step : crew.firstStep? state with
      | none => exact ended_of_no_step crew state step
      | some next =>
          obtain ⟨worker, moved⟩ := first_step_spec step
          have less := step_remaining moved
          exact ih next (by omega)

theorem complete_ended (crew : Crew σ) (schedule : List Nat) (workers : Nat) (surroundings : σ) :
    (crew.complete schedule workers surroundings).Ended := by
  apply advance_ended
  rw [← start_remaining crew workers surroundings]
  exact play_remaining schedule _

end

end Pool

end FenceCheck

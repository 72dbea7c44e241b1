import FenceCheck.Run.Outcome
import FenceCheck.Session.Log

/-!
A pool of workers over a list of items. Each worker claims the next item, tells of the start,
executes the block, stores the outcome in the slot of the item's index and tells of the finish, until
no item is left. Between any two of these steps any other worker may move, so a run of the pool is a
sequence of workers' names; `play` takes any such sequence, and `complete` goes on from there to the
end, always with the first worker that can move.

A worker is lost when what it tells is refused or its item's index has no slot. Nobody takes over its
item.
-/

namespace FenceCheck

namespace Pool

structure Claim where
  position : Nat
  item : Item
  deriving DecidableEq, Repr

inductive Stage where
  | idle
  | claimed (claim : Claim)
  | started (claim : Claim)
  | executed (claim : Claim) (outcome : Outcome)
  | stored (claim : Claim) (outcome : Outcome)
  | ended
  | lost
  deriving DecidableEq, Repr

inductive Happening where
  | started (claim : Claim)
  | executed (claim : Claim)
  | finished (claim : Claim) (outcome : Outcome)
  deriving DecidableEq, Repr

/-- What a pool works on and how; `σ` is what follows the work. -/
structure Crew (σ : Type) where
  items : List Item
  execute : Block → Except Text Outcome
  /-- The milliseconds that an execution takes which ends in an exception. -/
  elapsed : Nat
  /-- Answers a happening; a refusal ends the worker. -/
  tell : Happening → σ → σ × Bool
  log : Log.Entry → σ → σ

structure State (σ : Type) where
  cursor : Nat
  stages : List Stage
  slots : List (Option Outcome)
  history : List Happening
  surroundings : σ

section

variable {σ : Type} (crew : Crew σ)

def State.start (workers : Nat) (surroundings : σ) : State σ :=
  { cursor := 0, stages := List.replicate workers .idle
    slots := List.replicate crew.items.length none, history := [], surroundings }

/-- The slot that an index denotes; negative ones count from the end. -/
def slot? (index : Int) (count : Nat) : Option Nat :=
  if 0 ≤ index ∧ index < count then some index.toNat
  else if index < 0 ∧ -(count : Int) ≤ index then some (index + count).toNat
  else none

def Crew.outcomeOf (block : Block) : Outcome :=
  match crew.execute block with
  | .ok outcome => outcome
  | .error message =>
      .fail block (Text.ofString "internal error: " ++ message) crew.elapsed false

def State.move (state : State σ) (worker : Nat) (stage : Stage) : State σ :=
  { state with stages := state.stages.set worker stage }

def Crew.afterTelling (state : State σ) (worker : Nat) (happening : Happening) (stage : Stage) :
    State σ :=
  match crew.tell happening state.surroundings with
  | (surroundings, accepted) =>
      { state with history := state.history ++ [happening], surroundings }.move worker
        (if accepted then stage else .lost)

/-- The next step of a worker; one that ended or was lost has none. -/
def Crew.step? (state : State σ) (worker : Nat) : Option (State σ) :=
  match state.stages[worker]? with
  | none | some .ended | some .lost => none
  | some .idle =>
      match crew.items[state.cursor]? with
      | some item =>
          -- The item is taken and the cursor moved in one step, so no two workers take one item.
          some ({ state with cursor := state.cursor + 1 }.move worker
            (.claimed ⟨state.cursor, item⟩))
      | none => some (state.move worker .ended)
  | some (.claimed claim) =>
      some (crew.afterTelling state worker (.started claim) (.started claim))
  | some (.started claim) =>
      some (crew.afterTelling state worker (.executed claim)
        (.executed claim (crew.outcomeOf claim.item.block)))
  | some (.executed claim outcome) =>
      match slot? claim.item.index state.slots.length with
      | some slot =>
          some ({ state with slots := state.slots.set slot (some outcome) }.move worker
            (.stored claim outcome))
      -- An index without a slot raises in the worker, which does not come back for another item.
      | none => some (state.move worker .lost)
  | some (.stored claim outcome) =>
      some (crew.afterTelling state worker (.finished claim outcome) .idle)

/-- Steps of the workers that a sequence names, in its order; a name that cannot move is passed
over. -/
def Crew.play (state : State σ) (workers : List Nat) : State σ :=
  workers.foldl (fun state worker => (crew.step? state worker).getD state) state

/-- A step of the first worker that can move. -/
def Crew.firstStep? (state : State σ) : Option (State σ) :=
  (List.range state.stages.length).findSome? (crew.step? state)

/-- Steps until no worker can move, at most `fuel` of them. -/
def Crew.advance : Nat → State σ → State σ
  | 0, state => state
  | fuel + 1, state =>
      match crew.firstStep? state with
      | none => state
      | some next => Crew.advance fuel next

/-- A run to its end: the steps that a schedule names, and then those of the first worker that can
move. An item takes five steps, and each worker one more to find that none is left. -/
def Crew.complete (schedule : List Nat) (workers : Nat) (surroundings : σ) : State σ :=
  crew.advance (5 * crew.items.length + workers)
    (crew.play (State.start crew workers surroundings) schedule)

def State.emptySlots (state : State σ) : List Nat :=
  (List.range state.slots.length).filter fun slot => state.slots[slot]? = some none

/-- The outcomes in the order of the slots, all of which have to be filled. -/
def State.collect (state : State σ) : Except Failure (List Outcome) :=
  match state.emptySlots with
  | [] => .ok (state.slots.filterMap id)
  | slots => .error (.emptySlots slots)

/-- The number of workers for a number of items: no more than there are items. -/
def size (concurrency : Amount) (count : Nat) : Amount :=
  if concurrency.isAbove count then .whole count else concurrency

/-- The number of workers in the log. There are no more of them than items, so it is a word too. -/
def sizeField : Amount → Json
  | .whole n => Log.word n
  | .real x => .float x

def startEntry (count : Nat) (workers : Amount) : Log.Entry :=
  { level := "info", component := "scheduler", action := "start"
    fields := [("items", Log.word count), ("workers", sizeField workers)] }

def finishEntry (count : Nat) : Log.Entry :=
  { level := "info", component := "scheduler", action := "finish"
    fields := [("items", Log.word count)] }

/-- The outcomes of all items, with the state in which the pool was left, of a run that begins along
a schedule. There has to be one worker at least, and a whole number of them. -/
def Crew.runAlong (schedule : List Nat) (concurrency : Amount) (surroundings : σ) :
    State σ × Except Failure (List Outcome) :=
  if concurrency.isBelow 1 then
    (State.start crew 0 surroundings, .error (.ofFewWorkers concurrency))
  else
    let count := crew.items.length
    let workers := size concurrency count
    let surroundings := crew.log (startEntry count workers) surroundings
    match workers with
    -- Workers are counted behind the log line, and a floating-point number cannot count them.
    | .real _ => (State.start crew 0 surroundings, .error .brokenWorkers)
    | .whole workers =>
        let state := crew.complete schedule workers.toNat surroundings
        match state.collect with
        | .error failure => (state, .error failure)
        | .ok outcomes =>
            ({ state with surroundings := crew.log (finishEntry count) state.surroundings },
              .ok outcomes)

def Crew.run (concurrency : Amount) (surroundings : σ) :
    State σ × Except Failure (List Outcome) :=
  crew.runAlong [] concurrency surroundings

end

end Pool

end FenceCheck

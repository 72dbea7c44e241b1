import FenceCheck.Proofs.ConsoleAnswer
import FenceCheck.Proofs.WorkRecord
import FenceCheck.Run.Basic

/-!
Work that a console follows. What it comes to and what it adds to the record depend on the console alone,
so work is described by what holds of the two, and put together from its steps.
-/

namespace FenceCheck

namespace Run

open Pool

section

variable {α β : Type} {work : ConsoleWork α} {next : α → ConsoleWork β} {given : Work α}
  {console after : Console} {value : α} {failure : Failure} {events more : Transcript}

theorem gives_run_bind {result : Except Failure (β × Console)}
    (first : (work.run console).Gives (.ok (value, after)) events)
    (second : ((next value).run after).Gives result more) :
    ((work >>= next).run console).Gives result (events ++ more) :=
  Work.gives_bind first second

theorem gives_stop (first : (work.run console).Gives (.error failure) events) :
    ((work >>= next).run console).Gives (.error failure) events :=
  Work.gives_bind_error first

theorem gives_lift (gives : given.Gives (.ok value) events) (console : Console) :
    ((liftM given : ConsoleWork α).run console).Gives (.ok (value, console)) events := by
  have lifted : (given >>= fun value => pure (value, console)).Gives (.ok (value, console))
      (events ++ []) := Work.gives_bind gives (Work.gives_pure (value, console))
  rw [List.append_nil] at lifted
  exact lifted

theorem gives_lift_error (gives : given.Gives (.error failure) events) (console : Console) :
    ((liftM given : ConsoleWork α).run console).Gives (.error failure) events :=
  Work.gives_bind_error gives

theorem gives_get (console : Console) :
    ((get : ConsoleWork Console).run console).Gives (.ok (console, console)) [] :=
  Work.gives_pure (console, console)

theorem gives_set (console after : Console) :
    ((set after : ConsoleWork Unit).run console).Gives (.ok ((), after)) [] :=
  Work.gives_pure ((), after)

theorem gives_return (value : α) (console : Console) :
    ((pure value : ConsoleWork α).run console).Gives (.ok (value, console)) [] :=
  Work.gives_pure (value, console)

theorem gives_ofExcept {result : Except Failure α} (known : result = .ok value) (console : Console) :
    ((liftM (Work.ofExcept result) : ConsoleWork α).run console).Gives (.ok (value, console)) [] := by
  subst known
  exact gives_lift (Work.gives_ofExcept (.ok value)) console

end

/-- A call is answered on the record whether it is accepted or not. -/
theorem gives_reply (call : Console.Call) (console : Console) :
    ((Console.tell call).run console).Gives
      (match (console.call call).refusal with
        | some failure => .error failure
        | none => .ok ((), (console.call call).console))
      (Console.eventsOf (console.call call).printed) := by
  have events : Console.eventsOf (console.call call).printed =
      [] ++ (Console.eventsOf (console.call call).printed ++ ([] ++ [])) := by simp
  rw [events]
  refine gives_run_bind (gives_get console) ?_
  refine gives_run_bind (gives_lift (Work.gives_record _) console) ?_
  refine gives_run_bind (gives_set console _) ?_
  cases (console.call call).refusal with
  | some failure => exact gives_lift_error (Work.gives_throw failure) _
  | none => exact gives_return () _

theorem gives_tell {console : Console} {call : Console.Call} {reply : Console.Reply}
    (answer : console.call call = reply) (accepted : reply.refusal = none) :
    ((Console.tell call).run console).Gives (.ok ((), reply.console))
      (Console.eventsOf reply.printed) := by
  subst answer
  have gives := gives_reply call console
  rw [accepted] at gives
  exact gives

/-- What a pool comes to is what a run has of it, whether it ends well or not, with all that surrounded
the work on record. -/
theorem gives_executeAll (machine : Machine) (context : Option Context)
    (execute : Block → Execution) (schedule : List Nat) (concurrency : Amount) (items : List Item)
    (console : Console) :
    let pool := (crew machine context execute items).runAlong schedule concurrency ⟨console, []⟩
    ((executeAll machine context execute schedule concurrency items).run console).Gives
      (match pool.2 with
        | .error failure => .error failure
        | .ok outcomes => .ok (outcomes, pool.1.surroundings.console))
      pool.1.surroundings.transcript := by
  intro pool
  have events : pool.1.surroundings.transcript =
      [] ++ ([] ++ (pool.1.surroundings.transcript ++ [])) := by simp
  rw [events]
  refine gives_run_bind (gives_get console) ?_
  refine gives_run_bind (gives_set console _) ?_
  refine gives_run_bind (gives_lift (Work.gives_record _) _) ?_
  split
  next failed => exact gives_lift_error (failed ▸ Work.gives_ofExcept _) _
  next ended => exact gives_ofExcept ended _

/-- On this console the work comes to a result and adds events of which this holds. -/
def Comes {α : Type} (work : ConsoleWork α) (console : Console)
    (post : Except Failure (α × Console) → Transcript → Prop) : Prop :=
  ∃ result events, (work.run console).Gives result events ∧ post result events

/-- If the work ends well on this console, this holds of its value, of the console then and of the
events. -/
def Ends {α : Type} (work : ConsoleWork α) (console : Console)
    (post : α → Console → Transcript → Prop) : Prop :=
  Comes work console fun result events =>
    ∀ value after, result = .ok (value, after) → post value after events

section

variable {α β : Type} {work : ConsoleWork α} {next : α → ConsoleWork β} {given : Work α}
  {console : Console}

theorem Comes.bind {first : Except Failure (α × Console) → Transcript → Prop}
    {post : Except Failure (β × Console) → Transcript → Prop} (comes : Comes work console first)
    (stops : ∀ failure events, first (.error failure) events → post (.error failure) events)
    (goes : ∀ value after events, first (.ok (value, after)) events →
      Comes (next value) after fun result more => post result (events ++ more)) :
    Comes (work >>= next) console post := by
  obtain ⟨result, events, gives, holds⟩ := comes
  cases result with
  | error failure => exact ⟨_, events, gives_stop gives, stops failure events holds⟩
  | ok ended =>
      obtain ⟨result, more, continues, there⟩ := goes ended.1 ended.2 events holds
      exact ⟨result, events ++ more, gives_run_bind gives continues, there⟩

theorem Comes.gives {post : Except Failure (α × Console) → Transcript → Prop}
    {result : Except Failure (α × Console)} {events : Transcript} (comes : Comes work console post)
    (ended : (work.run console).perform = (result, events)) :
    (work.run console).Gives result events := by
  obtain ⟨_, _, gives, -⟩ := comes
  rw [Work.gives_perform gives] at ended
  cases ended
  exact gives

theorem comes_lift (appends : given.Appends) (console : Console) :
    Comes (liftM given : ConsoleWork α) console fun result events =>
      events = given.perform.2 ∧ result = given.perform.1.map fun value => (value, console) := by
  cases ended : given.perform with
  | mk result events =>
      have gives := appends.gives ended
      cases result with
      | error failure => exact ⟨_, events, gives_lift_error gives console, rfl, rfl⟩
      | ok value => exact ⟨_, events, gives_lift gives console, rfl, rfl⟩

theorem Ends.bind {first : α → Console → Transcript → Prop} {post : β → Console → Transcript → Prop}
    (ends : Ends work console first)
    (goes : ∀ value after events, first value after events →
      Ends (next value) after fun result last more => post result last (events ++ more)) :
    Ends (work >>= next) console post :=
  Comes.bind ends (fun _ _ _ => nofun) fun value after events holds =>
    goes value after events (holds value after rfl)

theorem Ends.mono {first post : α → Console → Transcript → Prop} (ends : Ends work console first)
    (weaker : ∀ value after events, first value after events → post value after events) :
    Ends work console post := by
  obtain ⟨result, events, gives, holds⟩ := ends
  exact ⟨result, events, gives, fun value after same => weaker value after events
    (holds value after same)⟩

theorem Ends.holds {post : α → Console → Transcript → Prop} {value : α} {after : Console}
    {events : Transcript} (ends : Ends work console post)
    (ended : (work.run console).perform = (.ok (value, after), events)) : post value after events := by
  obtain ⟨result, recorded, gives, holds⟩ := ends
  rw [Work.gives_perform gives] at ended
  cases ended
  exact holds value after rfl

theorem ends_return {post : α → Console → Transcript → Prop} {value : α}
    (holds : post value console []) : Ends (pure value : ConsoleWork α) console post :=
  ⟨_, [], gives_return value console, fun _ _ same => by cases same; exact holds⟩

theorem ends_lift (appends : given.Appends) (console : Console) :
    Ends (liftM given : ConsoleWork α) console fun value after events =>
      given.perform = (.ok value, events) ∧ after = console := by
  obtain ⟨result, events, gives, rfl, rfl⟩ := comes_lift appends console
  refine ⟨_, _, gives, fun value after ended => ?_⟩
  cases performed : given.perform with
  | mk result events =>
      rw [performed] at ended
      cases result with
      | error failure => cases ended
      | ok value =>
          cases ended
          exact ⟨rfl, rfl⟩

theorem ends_ofExcept (result : Except Failure α) (console : Console) :
    Ends (liftM (Work.ofExcept result) : ConsoleWork α) console fun value after events =>
      result = .ok value ∧ after = console ∧ events = [] := by
  cases result with
  | error failure =>
      exact ⟨_, [], gives_lift_error (Work.gives_ofExcept _) console, fun _ _ => nofun⟩
  | ok value =>
      refine ⟨_, [], gives_ofExcept rfl console, fun _ _ same => ?_⟩
      cases same
      exact ⟨rfl, rfl, rfl⟩

end

theorem ends_tell (call : Console.Call) (console : Console) :
    Ends (Console.tell call) console fun _ after events =>
      (console.call call).refusal = none ∧ after = (console.call call).console ∧
        events = Console.eventsOf (console.call call).printed := by
  refine ⟨_, _, gives_reply call console, fun _ after ended => ?_⟩
  split at ended
  next => cases ended
  next accepted =>
      cases ended
      exact ⟨accepted, rfl, rfl⟩

theorem ends_written {console moved : Console} {call : Console.Call} {text : Text}
    (answer : console.call call = .write moved text) :
    Ends (Console.tell call) console fun _ after events =>
      after = moved ∧ events = Console.written moved.style text := by
  refine ⟨_, _, gives_tell answer rfl, fun _ after ended => ?_⟩
  cases ended
  exact ⟨rfl, Console.eventsOf_write moved text⟩

theorem ends_told {console moved : Console} {call : Console.Call} {before line : Text}
    (answer : console.call call = .tell moved call before line) :
    Ends (Console.tell call) console fun _ after events =>
      after = moved ∧ events = Console.written moved.style (before ++ line) := by
  refine (ends_tell call console).mono ?_
  rintro - _ _ ⟨returned, rfl, rfl⟩
  rw [answer] at returned ⊢
  rw [Console.Reply.tell_returned _ _ _ returned]
  exact ⟨rfl, Console.eventsOf_write moved _⟩

end Run

end FenceCheck

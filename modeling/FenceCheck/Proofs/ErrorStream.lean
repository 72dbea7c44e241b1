import FenceCheck.Proofs.ConsoleStyles
import FenceCheck.Proofs.DocumentOrder
import FenceCheck.Proofs.RunFigures

/-!
A run whose console speaks on the stream of errors. It says nothing on the other stream: neither its
console nor its log, a warning or the programs that it starts write there. Nor does such a run fail
because a path does not exist; it gives up then, which is another end than a failure.
-/

namespace FenceCheck

/-- Whatever it is, it is not printed to the stream of output. -/
def Event.IsAside (event : Event) : Prop := ∀ text, event ≠ .printed .output text

theorem Event.aside_errors (text : Text) : (Event.printed .errors text).IsAside := nofun

def Failure.IsMissing : Failure → Prop
  | .noPath _ => True
  | _ => False

namespace Work

variable {α β : Type} {kind : Event → Prop}

end Work

/-! What is on record of the parts of a run. -/

namespace Discovery

end Discovery

/-! A console that speaks on the stream of errors. -/

namespace Console

variable {console : Console} {call : Call}

theorem eventsOf_aside (speaks : console.style.stream = .errors) (call : Call) :
    ∀ event ∈ eventsOf (console.call call).printed, event.IsAside := by
  have stream : call.stream console.style = .errors := by cases call <;> first | rfl | exact speaks
  rw [(call_shows console call).printed, stream, spoken]
  split
  · exact List.forall_mem_nil _
  · exact List.forall_mem_singleton.mpr (Event.aside_errors _)

end Console

namespace Run

open Pool

variable {machine : Machine} {config : Config} {context : Option Context}
  {execute : Block → Execution} {items : List Item} {target : Path} {schedule : List Nat}
  {concurrency : Amount}

/-- What work may come to: a console that still speaks on the stream of errors, or a failure that is not
about a path. -/
def Keeps {α : Type} : Except Failure (α × Console) → Prop
  | .ok (_, after) => after.style.stream = .errors
  | .error failure => ¬ failure.IsMissing

def Discreet {α : Type} (work : ConsoleWork α) : Prop :=
  ∀ console, console.style.stream = .errors →
    Comes work console fun result events => (∀ event ∈ events, event.IsAside) ∧ Keeps result

section

variable {α β : Type} {work : ConsoleWork α} {next : α → ConsoleWork β}

end

structure Surroundings.Discreet (surroundings : Surroundings) : Prop where
  speaks : surroundings.console.style.stream = .errors
  aside : ∀ event ∈ surroundings.transcript, event.IsAside

theorem Surroundings.Discreet.add {surroundings : Surroundings} {events : Transcript}
    (discreet : surroundings.Discreet) (aside : ∀ event ∈ events, event.IsAside) :
    (surroundings.add events).Discreet :=
  ⟨discreet.speaks, List.forall_mem_append.mpr ⟨discreet.aside, aside⟩⟩

theorem Surroundings.Discreet.call {surroundings : Surroundings} (discreet : surroundings.Discreet)
    (call : Console.Call) : (surroundings.call call).1.Discreet where
  speaks := (congrArg ConsoleStyle.stream (Console.call_style _ call)).trans discreet.speaks
  aside := List.forall_mem_append.mpr
    ⟨discreet.aside, Console.eventsOf_aside discreet.speaks call⟩

section

variable (aside : ∀ block, ∀ event ∈ (execute block).2, event.IsAside)

include aside

end

end Run

end FenceCheck

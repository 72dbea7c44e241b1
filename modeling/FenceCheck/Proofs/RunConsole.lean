import FenceCheck.Proofs.ConsoleAnswer
import FenceCheck.Proofs.PoolCompletion
import FenceCheck.Proofs.WorkRecord
import FenceCheck.Run.Basic
import Mathlib.Data.List.Induction

/-!
A console that follows the workers of a run. Along every orderly history each item is, on the console,
where its happenings have brought it, so the console hears the next happening. One without a live
region writes of each finish the lines of that item and nothing else.
-/

namespace FenceCheck

namespace Run

open Pool

def standing (told : List Happening) : Progress :=
  match told.getLast? with
  | none => .queued
  | some (.finished _ outcome) => Console.verdict outcome
  | some (.started _) | some (.executed _) => .running

/-- A console on which these items wait for their turn. -/
def ready (style : ConsoleStyle) (items : List Item) : Console :=
  { Console.new style with lifecycle := .running, progress := Console.queue items }

def linesOf (style : ConsoleStyle) : Happening → Text
  | .finished claim outcome => Console.finishedLines style claim.item outcome
  | .started _ | .executed _ => []

/-- A console has followed a history. -/
structure Follows (style : ConsoleStyle) (items : List Item) (history : List Happening)
    (console : Console) : Prop where
  style_kept : console.style = style
  running : console.lifecycle = .running
  progress : ∀ (position : Nat) (item : Item), items[position]? = some item →
    console.progress.lookup item.index = some (standing (about position history))

theorem ready_follows (style : ConsoleStyle) (items : List Item) :
    Follows style items [] (ready style items) where
  style_kept := rfl
  running := rfl
  progress := fun _ _ here => Console.lookup_queue items (List.mem_of_getElem? here)

variable {machine : Machine} {context : Option Context} {execute : Block → Execution}
  {items : List Item} {style : ConsoleStyle} {history : List Happening} {console : Console}

theorem standing_append (told : List Happening) (happening : Happening) :
    standing (told ++ [happening]) =
      match happening with
      | .finished _ outcome => Console.verdict outcome
      | .started _ | .executed _ => .running := by
  simp only [standing, List.getLast?_concat]
  cases happening <;> rfl

theorem follows_move (indexed : (crew machine context execute items).Indexed) {claim : Claim}
    {happening : Happening} (item : items[claim.position]? = some claim.item)
    (own : happening.position = claim.position) (follows : Follows style items history console)
    {after : Console} (kept : after.style = console.style ∧ after.lifecycle = console.lifecycle)
    (moved : after.progress = console.progress.put claim.item.index
      (standing (about claim.position history ++ [happening]))) :
    Follows style items (history ++ [happening]) after where
  style_kept := kept.1.trans follows.style_kept
  running := kept.2.trans follows.running
  progress := by
    intro position other here
    have otherIndex := indexed position other here
    have claimIndex := indexed claim.position claim.item item
    rw [moved, about_told rfl (by simpa using own)]
    by_cases same : position = claim.position
    · subst same
      rw [item] at here
      cases here
      rw [Indexed.lookup_put_self, if_pos rfl]
    · have different : other.index ≠ claim.item.index := by omega
      rw [Indexed.lookup_put_other _ _ different, if_neg same]
      exact follows.progress position other here

theorem follows_execute {claim : Claim}
    (known : about claim.position history = [.started claim])
    (follows : Follows style items history console) :
    Follows style items (history ++ [.executed claim]) console where
  style_kept := follows.style_kept
  running := follows.running
  progress := by
    intro position other here
    rw [about_told known (by simp [Happening.position, Happening.claim])]
    split
    case isTrue same =>
        subst same
        have before := follows.progress claim.position other here
        rw [known] at before
        exact before
    case isFalse different => exact follows.progress position other here

theorem call_answer {surroundings : Surroundings} {call : Console.Call} {reply : Console.Reply}
    (answer : surroundings.console.call call = reply) :
    surroundings.call call =
      (⟨reply.console, surroundings.transcript ++ Console.eventsOf reply.printed⟩,
        reply.refusal.isNone) := by
  subst answer
  rfl

theorem follows_tell (indexed : (crew machine context execute items).Indexed)
    (plain : style.interactive = false) {happening : Happening} {surroundings : Surroundings}
    (orderly : (crew machine context execute items).Orderly (history ++ [happening]))
    (follows : Follows style items history surroundings.console) :
    let told := (crew machine context execute items).tell happening surroundings
    told.2 = true ∧ Follows style items (history ++ [happening]) told.1.console ∧
      ((∀ block, (execute block).2.textOn style.stream = []) →
        told.1.transcript.textOn style.stream =
          surroundings.transcript.textOn style.stream ++ linesOf style happening) := by
  have still : surroundings.console.style.interactive = false := by rw [follows.style_kept, plain]
  obtain ⟨claim, item, next⟩ := orderly_next orderly
  have progress := follows.progress claim.position claim.item item
  -- What was told of the item before says where the console has it, and so what it answers.
  rcases next with ⟨rfl, known⟩ | ⟨rfl, known⟩ | ⟨rfl, known⟩
  · rw [known] at progress
    have answer := Console.call_started progress
    rw [still, if_neg Bool.false_ne_true] at answer
    have told : (crew machine context execute items).tell (.started claim) surroundings = _ :=
      call_answer answer
    rw [told]
    refine ⟨rfl, follows_move indexed item rfl follows ⟨rfl, rfl⟩ ?_, fun _ => ?_⟩
    · rw [standing_append]
      rfl
    · rw [Transcript.textOn_append]
      rfl
  · refine ⟨rfl, follows_execute known follows, fun silent => ?_⟩
    simp only [crew, Surroundings.add, Transcript.textOn_append, silent, linesOf]
  · generalize (crew machine context execute items).outcomeOf claim.item.block = outcome
    rw [known] at progress
    have answer := Console.call_finished progress outcome
    rw [still, if_neg Bool.false_ne_true] at answer
    have told : (crew machine context execute items).tell (.finished claim outcome) surroundings =
        _ := call_answer answer
    rw [told]
    refine ⟨rfl, follows_move indexed item rfl follows ⟨rfl, rfl⟩ ?_, fun _ => ?_⟩
    · rw [standing_append]
      rfl
    · rw [Transcript.textOn_append, Console.eventsOf_write, ← follows.style_kept]
      exact congrArg _ (Console.textOn_written _ _)

theorem follows_after (indexed : (crew machine context execute items).Indexed)
    (plain : style.interactive = false) {origin : Surroundings}
    (begins : Follows style items [] origin.console)
    (orderly : (crew machine context execute items).Orderly history) :
    let after := (crew machine context execute items).after origin history
    Follows style items history after.console ∧
      ((∀ block, (execute block).2.textOn style.stream = []) →
        after.transcript.textOn style.stream =
          origin.transcript.textOn style.stream ++ history.flatMap (linesOf style)) := by
  induction history using List.reverseRecOn with
  | nil => exact ⟨begins, fun _ => (List.append_nil _).symm⟩
  | append_singleton history happening ih =>
      obtain ⟨follows, written⟩ := ih (orderly_before orderly)
      obtain ⟨-, later, told⟩ := follows_tell indexed plain orderly follows
      rw [after_append]
      refine ⟨later, fun silent => ?_⟩
      rw [told silent, written silent, List.flatMap_append, List.append_assoc]
      simp

theorem crew_hears (indexed : (crew machine context execute items).Indexed)
    (plain : style.interactive = false) {origin : Surroundings}
    (begins : Follows style items [] origin.console) :
    (crew machine context execute items).Hears origin := by
  intro history happening orderly
  obtain ⟨follows, -⟩ := follows_after indexed plain begins (orderly_before orderly)
  exact (follows_tell indexed plain orderly follows).1

def itemLines (style : ConsoleStyle) (finished : List (Item × Outcome)) : Text :=
  finished.flatMap fun (item, outcome) => Console.finishedLines style item outcome

theorem lines_finishes (style : ConsoleStyle) (history : List Happening) :
    history.flatMap (linesOf style) =
      itemLines style ((finishes history).map fun row => (row.1.item, row.2)) := by
  induction history with
  | nil => rfl
  | cons happening rest ih =>
      rw [List.flatMap_cons, ih]
      cases happening <;> rfl

end Run

end FenceCheck

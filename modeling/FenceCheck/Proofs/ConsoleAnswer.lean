import FenceCheck.Console.Call
import FenceCheck.Proofs.ShownNumber
import Mathlib.Data.List.Basic

/-!
What a console answers: what it prints on its stream, what it knows of each item under its index, and
its answers to the start and the finish of an item that is where the call expects it.
-/

namespace FenceCheck

namespace Transcript

theorem textOn_append (stream : Stream) (events more : Transcript) :
    textOn stream (events ++ more) = textOn stream events ++ textOn stream more :=
  List.flatMap_append

end Transcript

namespace Console

def scanningLine (directory : Bool) : Text :=
  if directory then "Scanning for markdown files...\n" else []

def noBlocksLine : Text := "No testable code blocks found.\n"

/-- What a console printed, as events. -/
def eventsOf (printed : List (Stream × Text)) : Transcript :=
  printed.map fun (stream, text) => .printed stream text

def written (style : ConsoleStyle) (text : Text) : Transcript :=
  if text.isEmpty then [] else [.printed style.stream text]

theorem eventsOf_write (console : Console) (text : Text) :
    eventsOf (Reply.write console text).printed = written console.style text := by
  cases text <;> rfl

/-! A line with its numbers is written if all of them can be. -/

namespace Call

theorem found_isTold (documents : Int) (workers : Amount) :
    (found documents workers).isTold =
      (Integer.isShort documents && workers.toJson.isShowable) := by
  simp [isTold, numbers, Json.isShowable_int]

theorem summary_isTold (run : Summary) :
    (summary run).isTold =
      (!hasTotals run || Integer.isShort run.passed && Integer.isShort run.total) := by
  unfold isTold
  cases totals : hasTotals run <;> simp [numbers, totals, Json.isShowable_int]

end Call

namespace Reply

variable {call : Call} (console : Console) (before line : Text)

theorem tell_told (told : call.isTold = true) :
    tell console call before line = write console (before ++ line) := by
  simp only [tell, Call.told, Call.untold?, told, if_true]
  rfl

theorem tell_untold (untold : call.isTold = false) :
    tell console call before line =
      { write console before with refusal := some (.scalar .hugeInteger) } := by
  simp only [tell, Call.told, Call.untold?, untold, Bool.false_eq_true, if_false, List.append_nil]

theorem tell_returned (returned : (tell console call before line).refusal = none) :
    tell console call before line = write console (before ++ line) := by
  cases told : call.isTold with
  | true => exact tell_told console before line told
  | false =>
      rw [tell_untold console before line told] at returned
      cases returned

end Reply

theorem textOn_written (style : ConsoleStyle) (text : Text) :
    Transcript.textOn style.stream (written style text) = text := by
  cases text <;> simp [written, Transcript.textOn]

end Console

namespace Indexed

variable {α : Type}

theorem lookup_put (entries : Indexed α) (index other : Int) (value : α) :
    (entries.put index value).lookup other =
      if other = index then some value else entries.lookup other := by
  have head (key : Int) (held : α) (rest : Indexed α) :
      List.lookup other ((key, held) :: rest) =
        if other = key then some held else List.lookup other rest := by
    by_cases same : other = key
    · simp [same]
    · have absent : (other == key) = false := by simpa using same
      simp [List.lookup_cons, absent, same]
  induction entries with
  | nil => exact head index value []
  | cons entry rest ih =>
      obtain ⟨key, old⟩ := entry
      by_cases here : key = index
      · subst key
        rw [put, if_pos rfl, head, head]
        split <;> rfl
      · rw [put, if_neg here, head, head, ih]
        by_cases there : other = key
        · subst other
          simp [here]
        · simp [there]

theorem lookup_put_self (entries : Indexed α) (index : Int) (value : α) :
    (entries.put index value).lookup index = some value := by
  rw [lookup_put, if_pos rfl]

theorem lookup_put_other (entries : Indexed α) {index other : Int} (value : α)
    (different : other ≠ index) : (entries.put index value).lookup other = entries.lookup other := by
  rw [lookup_put, if_neg different]

end Indexed

namespace Console

theorem lookup_queue (items : List Item) {item : Item} (member : item ∈ items) :
    (queue items).lookup item.index = some .queued := by
  have kept (items : List Item) (entries : Indexed Progress)
      (queued : item ∈ items ∨ entries.lookup item.index = some .queued) :
      (items.foldl (fun entries item => entries.put item.index .queued) entries).lookup item.index =
        some .queued := by
    -- Queuing an index again leaves it queued, so the indices need not be distinct.
    induction items generalizing entries with
    | nil =>
        rcases queued with none | old
        · cases none
        · exact old
    | cons first rest ih =>
        apply ih
        by_cases same : item.index = first.index
        · exact Or.inr (by rw [same, Indexed.lookup_put_self])
        · rcases queued with member | old
          · rcases List.mem_cons.mp member with rfl | later
            · exact absurd rfl same
            · exact Or.inl later
          · exact Or.inr (by rw [Indexed.lookup_put_other _ _ same, old])
  exact kept items [] (Or.inl member)

variable {console : Console} {item : Item}

theorem moveItem_ok {source : Progress} (next : Progress) {index : Int}
    (here : console.progress.lookup index = some source) :
    console.moveItem index source next =
      .ok { console with progress := console.progress.put index next } := by
  simp [moveItem, here]

def verdict (outcome : Outcome) : Progress := if outcome.passed then .passed else .failed

def launched (console : Console) (item : Item) : Console :=
  { console with
    progress := console.progress.put item.index .running
    inFlight := console.inFlight.put item.index item.label }

def landed (console : Console) (item : Item) (outcome : Outcome) : Console :=
  { console with
    progress := console.progress.put item.index (verdict outcome)
    inFlight := console.inFlight.remove item.index }

theorem call_started (queued : console.progress.lookup item.index = some .queued) :
    console.call (.started item) =
      if console.style.interactive then
        .write (console.launched item).redraw.1 (console.launched item).redraw.2
      else .accept (console.launched item) [] := by
  simp only [call, itemStarted, moveItem_ok .running queued]
  rfl

theorem call_finished (running : console.progress.lookup item.index = some .running)
    (outcome : Outcome) :
    console.call (.finished item outcome) =
      if console.style.interactive then
        .write (console.landed item outcome).erase.1.draw.1
          ((console.landed item outcome).erase.2 ++ finishedLines console.style item outcome ++
            (console.landed item outcome).erase.1.draw.2)
      else .write (console.landed item outcome) (finishedLines console.style item outcome) := by
  have moved := moveItem_ok (verdict outcome) running
  simp only [verdict] at moved
  simp only [call, itemFinished, moved]
  rfl

end Console

end FenceCheck

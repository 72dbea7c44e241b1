import FenceCheck.Proofs.LiveCourse

/-!
A console with a live region shows what one without it shows, and below it the items in flight. Each
call keeps this, so it holds after any course of a run; after the summary nothing is left of the live
region.
-/

namespace FenceCheck

open Terminal

namespace Console

def heed (heard : Console × Text) (call : Call) : Console × Text :=
  let reply := heard.1.call call
  (reply.console, heard.2 ++ Transcript.textOn heard.1.style.stream (eventsOf reply.printed))

/-- The console after calls, and all that it wrote to its stream. -/
def hear (console : Console) (calls : List Call) : Console × Text := calls.foldl heed (console, [])

variable {console next : Console} {style : ConsoleStyle} {items : List Item} {calls : List Call}
  {call : Call} {item : Item} {text : Text} {live plain : Console × Text}

theorem hear_append (console : Console) (calls : List Call) (call : Call) :
    console.hear (calls ++ [call]) = heed (console.hear calls) call :=
  List.foldl_concat heed (console, []) call calls

theorem heed_printed {heard : Console × Text} (moved : (heard.1.call call).console = next)
    (printed : (heard.1.call call).printed = (Reply.write next text).printed)
    (kept : next.style = heard.1.style) : heed heard call = (next, heard.2 ++ text) := by
  have written : Transcript.textOn heard.1.style.stream
      (eventsOf (Reply.write next text).printed) = text := by
    rw [eventsOf_write, ← kept, textOn_written]
  simp only [heed, moved, printed, written]

theorem heed_write {heard : Console × Text} (answer : heard.1.call call = .write next text)
    (kept : next.style = heard.1.style) : heed heard call = (next, heard.2 ++ text) :=
  heed_printed (by rw [answer]; rfl) (by rw [answer]) kept

theorem heed_tell {heard : Console × Text} {before line : Text}
    (answer : heard.1.call call = .tell next call before line) (kept : next.style = heard.1.style) :
    heed heard call = (next, heard.2 ++ (before ++ call.told line)) :=
  heed_printed (by rw [answer]; rfl) (by rw [answer]; rfl) kept

theorem heed_accept {heard : Console × Text} (answer : heard.1.call call = .accept next []) :
    heed heard call = (next, heard.2) := by
  rw [heed, answer]
  exact congrArg (Prod.mk next) (List.append_nil heard.2)

def entries (items : List Item) (calls : List Call) : Indexed Text :=
  (flying items calls).map fun item => (item.index, item.label)

def rows (items : List Item) (calls : List Call) : List Text :=
  (flying items calls).map fun item => liveRow (ticks calls) item.label

/-! Two consoles that heard the same, one with a live region and one without. -/

/-- They know the same of the run, and the live one has the items in flight. -/
structure Matches (style : ConsoleStyle) (items : List Item) (calls : List Call)
    (live plain : Console) : Prop where
  live_style : live.style = { style with interactive := true }
  plain_style : plain.style = { style with interactive := false }
  lifecycle : plain.lifecycle = live.lifecycle
  progress : plain.progress = live.progress
  frame : live.frame = ticks calls
  inFlight : live.inFlight.Perm (entries items calls)

/-- They also show the same permanent lines, and below these the live one shows the items in flight. -/
structure Agrees (style : ConsoleStyle) (items : List Item) (calls : List Call)
    (live plain : Console × Text) : Prop where
  heard : Matches style items calls live.1 plain.1
  screen : ∃ above, blank.after plain.2 = between above true ∧
    OnScreen live.1 (blank.after live.2) above (rows items calls)

section

variable {one other : Console}

theorem Matches.labels (known : Matches style items calls one other)
    (distinct : (items.map Item.index).Nodup) :
    one.labels = (flying items calls).map Item.label := by
  have ascending : (entries items calls).Pairwise fun one other => one.1 < other.1 :=
    List.pairwise_map.mpr (flying_ascending distinct calls)
  rw [Console.labels, Indexed.inOrder_arranged known.inFlight ascending, entries, List.map_map]
  rfl

theorem Matches.rows (known : Matches style items calls one other)
    (distinct : (items.map Item.index).Nodup) :
    one.labels.map (liveRow one.frame) = rows items calls := by
  rw [known.labels distinct, known.frame, List.map_map]
  rfl

theorem Matches.fit (known : Matches style items calls one other)
    (distinct : (items.map Item.index).Nodup) (fits : ∀ item ∈ items, Fits item.label) :
    ∀ label ∈ one.labels, Fits label := by
  intro label member
  rw [known.labels distinct] at member
  obtain ⟨item, flies, rfl⟩ := List.mem_map.mp member
  exact fits item (mem_flying.mp flies).1

theorem draw_changes (console : Console) :
    ∃ drawn cursorHidden, console.draw.1 = { console with drawn, cursorHidden } := by
  unfold draw
  split
  · exact ⟨console.drawn, console.cursorHidden, rfl⟩
  · exact ⟨_, true, rfl⟩

theorem Matches.drawn (known : Matches style items calls one other) :
    Matches style items calls one.erase.1.draw.1 other := by
  obtain ⟨extent, hidden, changes⟩ := draw_changes one.erase.1
  rw [changes]
  exact ⟨known.live_style, known.plain_style, known.lifecycle, known.progress, known.frame,
    known.inFlight⟩

theorem Matches.shown (known : Matches style items calls one other)
    (distinct : (items.map Item.index).Nodup) (fits : ∀ item ∈ items, Fits item.label)
    {terminal : Terminal} {above live lines : List Text}
    (on : OnScreen one terminal above live) (added : Adds text lines) :
    OnScreen one.erase.1.draw.1
      (terminal.after (one.erase.2 ++ text ++ one.erase.1.draw.2)) (above ++ lines)
      (Console.rows items calls) := by
  have shown := draw_onScreen (lines_onScreen (erase_onScreen on) added) (known.fit distinct fits)
  rw [after_append, after_append, ← known.rows distinct]
  exact shown

end

theorem flying_none (none : startedItems calls = []) (items : List Item) :
    flying items calls = [] := by
  apply List.eq_nil_iff_forall_not_mem.mpr
  intro item member
  have started := (mem_flying.mp member).2.1
  rw [none] at started
  cases started

theorem agrees_new (style : ConsoleStyle) (items : List Item) :
    Agrees style items [] (Console.new { style with interactive := true }, [])
      (Console.new { style with interactive := false }, []) := by
  have none : flying items [] = [] := flying_none rfl items
  refine ⟨⟨rfl, rfl, rfl, rfl, rfl, ?_⟩, [], rfl, ?_⟩
  · rw [entries, none]
    exact List.Perm.refl []
  · rw [rows, none]
    exact ⟨rfl, rfl⟩

theorem agrees_settled (agrees : Agrees style items calls live plain) (call : Call)
    (starts : call.startedItem? = none) (finishes : call.finishedItem? = none)
    (timeless : call.isTick = false) (grounded : startedItems calls = []) (settles : Settles text)
    (lifecycle : Lifecycle) (progress : Indexed Progress) :
    Agrees style items (calls ++ [call]) ({ live.1 with lifecycle, progress }, live.2 ++ text)
      ({ plain.1 with lifecycle, progress }, plain.2 ++ text) := by
  obtain ⟨known, above, shown, on⟩ := agrees
  have same : flying items (calls ++ [call]) = flying items calls :=
    flying_kept starts finishes items calls
  have none : rows items calls = [] := by rw [rows, flying_none grounded, List.map_nil]
  have still : ticks (calls ++ [call]) = ticks calls := by
    simp [ticks, timeless]
  obtain ⟨lines, added⟩ := settles
  rw [none] at on
  refine ⟨⟨known.live_style, known.plain_style, rfl, rfl, known.frame.trans still.symm, ?_⟩,
    above ++ lines, ?_, ?_⟩
  · rw [entries, same]
    exact known.inFlight
  · rw [after_append, shown, added]
  · have later := lines_onScreen on added
    rw [← after_append] at later
    rw [rows, same, still, ← rows, none]
    exact ⟨later.extent, later.lines⟩

theorem agrees_tick (distinct : (items.map Item.index).Nodup)
    (fits : ∀ item ∈ items, Fits item.label) (agrees : Agrees style items calls live plain) :
    Agrees style items (calls ++ [.tick]) (heed live .tick) plain := by
  obtain ⟨known, above, shown, on⟩ := agrees
  have same : flying items (calls ++ [.tick]) = flying items calls := flying_kept rfl rfl items calls
  let next : Console := { live.1 with frame := live.1.frame + 1 }
  have ticked : Matches style items (calls ++ [.tick]) next plain.1 := by
    refine ⟨known.live_style, known.plain_style, known.lifecycle, known.progress, ?_, ?_⟩
    · rw [ticks_append, ← known.frame]
      rfl
    · rw [entries, same]
      exact known.inFlight
  have here : OnScreen next (blank.after live.2) above (rows items calls) := ⟨on.extent, on.lines⟩
  -- Without items in flight a tick draws nothing, and there is nothing to draw.
  cases grounded : live.1.inFlight.isEmpty with
  | true =>
      have answer : live.1.call .tick = .accept next [] := by simp [call, next, grounded]
      have empty := known.inFlight
      rw [List.isEmpty_iff.mp grounded] at empty
      have none : flying items calls = [] := List.map_eq_nil_iff.mp (List.Perm.nil_eq empty).symm
      rw [heed_accept answer]
      refine ⟨ticked, above, shown, ?_⟩
      rw [rows, none, List.map_nil] at here
      rw [rows, same, none, List.map_nil]
      exact here
  | false =>
      have answer : live.1.call .tick =
          .write next.erase.1.draw.1 (next.erase.2 ++ next.erase.1.draw.2) := by
        simp [call, next, grounded, redraw]
      have drawn := ticked.shown distinct fits here adds_nil
      rw [List.append_nil, List.append_nil, ← after_append] at drawn
      rw [heed_write answer (ticked.drawn.live_style.trans known.live_style.symm)]
      exact ⟨ticked.drawn, above, shown, drawn⟩

theorem agrees_started (distinct : (items.map Item.index).Nodup)
    (fits : ∀ item ∈ items, Fits item.label) (agrees : Agrees style items calls live plain)
    (listed : item ∈ items) (fresh : item ∉ startedItems calls)
    (unfinished : item ∉ finishedItems calls)
    (queued : live.1.progress.lookup item.index = some .queued) :
    Agrees style items (calls ++ [.started item]) (heed live (.started item))
      (heed plain (.started item)) := by
  obtain ⟨known, above, shown, on⟩ := agrees
  have grounded := fresh_grounded items fresh
  have absent : ∀ entry ∈ live.1.inFlight, entry.1 ≠ item.index := by
    intro entry member
    obtain ⟨other, flies, rfl⟩ := List.mem_map.mp (known.inFlight.mem_iff.mp member)
    exact flying_apart distinct listed grounded other flies
  have started : Matches style items (calls ++ [.started item]) (live.1.launched item)
      (plain.1.launched item) := by
    refine ⟨known.live_style, known.plain_style, known.lifecycle, ?_, ?_, ?_⟩
    · simp only [launched, known.progress]
    · rw [ticks_append]
      exact known.frame
    · -- The entry goes to the end; only the arrangement by index counts.
      have put : (live.1.launched item).inFlight = live.1.inFlight ++ [(item.index, item.label)] :=
        Indexed.put_new live.1.inFlight item.label absent
      have flies := (flying_started distinct listed fresh unfinished).map
        fun item => (item.index, item.label)
      rw [put]
      exact (List.perm_append_singleton _ _).trans ((known.inFlight.cons _).trans flies.symm)
  have here : OnScreen (live.1.launched item) (blank.after live.2) above (rows items calls) :=
    ⟨on.extent, on.lines⟩
  have drawn := started.shown distinct fits here adds_nil
  rw [List.append_nil, List.append_nil, ← after_append] at drawn
  have answer := call_started queued
  rw [known.live_style, if_pos rfl] at answer
  have plainAnswer := call_started (known.progress ▸ queued)
  rw [known.plain_style, if_neg Bool.false_ne_true] at plainAnswer
  rw [heed_write answer (started.drawn.live_style.trans known.live_style.symm),
    heed_accept plainAnswer]
  exact ⟨started.drawn, above, shown, drawn⟩

theorem agrees_finished (distinct : (items.map Item.index).Nodup)
    (fits : ∀ item ∈ items, Fits item.label) (agrees : Agrees style items calls live plain)
    (listed : item ∈ items) (begun : item ∈ startedItems calls)
    (unfinished : item ∉ finishedItems calls)
    (running : live.1.progress.lookup item.index = some .running) {outcome : Outcome}
    (clear : escape ∉ outcome.error.getD []) :
    Agrees style items (calls ++ [.finished item outcome]) (heed live (.finished item outcome))
      (heed plain (.finished item outcome)) := by
  obtain ⟨known, above, shown, on⟩ := agrees
  have flies := flying_finished distinct listed begun unfinished outcome
  have rest := finished_grounded items calls item outcome
  have finished : Matches style items (calls ++ [.finished item outcome])
      (live.1.landed item outcome) (plain.1.landed item outcome) := by
    refine ⟨known.live_style, known.plain_style, known.lifecycle, ?_, ?_, ?_⟩
    · simp only [landed, known.progress]
    · rw [ticks_append]
      exact known.frame
    · refine Indexed.remove_perm (known.inFlight.trans (flies.map _)) ?_
      intro entry member
      obtain ⟨other, stays, rfl⟩ := List.mem_map.mp member
      exact flying_apart distinct listed rest other stays
  have here : OnScreen (live.1.landed item outcome) (blank.after live.2) above (rows items calls) :=
    ⟨on.extent, on.lines⟩
  obtain ⟨lines, added⟩ := settles_finished live.1.style (fits item listed).1 clear
  -- The region is erased first, so the lines of the item come to stand above it.
  have drawn := finished.shown distinct fits here added
  rw [← after_append] at drawn
  have answer := call_finished running outcome
  rw [if_pos (by rw [known.live_style])] at answer
  have plainAnswer := call_finished (known.progress ▸ running) outcome
  rw [if_neg (by rw [known.plain_style]; exact Bool.false_ne_true)] at plainAnswer
  have same : finishedLines plain.1.style item outcome = finishedLines live.1.style item outcome := by
    rw [known.live_style, known.plain_style]
    rfl
  rw [heed_write answer (finished.drawn.live_style.trans known.live_style.symm),
    heed_write plainAnswer rfl, same]
  refine ⟨finished.drawn, above ++ lines, ?_, drawn⟩
  rw [after_append, shown, added]

/-! Each item is, for the console, where the calls have brought it. -/

/-- Announced items wait until they start, and run while they are in flight. -/
structure Tracks (items : List Item) (calls : List Call) (progress : Indexed Progress) : Prop where
  queued : .start items ∈ calls → ∀ item ∈ items, item ∉ startedItems calls →
    progress.lookup item.index = some .queued
  running : ∀ item ∈ flying items calls, progress.lookup item.index = some .running

section

variable {progress : Indexed Progress}

theorem tracks_tick (tracks : Tracks items calls progress) :
    Tracks items (calls ++ [.tick]) progress where
  queued := by
    intro begun other listed fresh
    rw [startedItems_append] at fresh
    have announced : .start items ∈ calls := by simpa using begun
    exact tracks.queued announced other listed fun old => fresh (List.mem_append_left _ old)
  running := by
    intro other flies
    rw [flying_kept rfl rfl] at flies
    exact tracks.running other flies

theorem tracks_started (distinct : (items.map Item.index).Nodup)
    (tracks : Tracks items calls progress) (listed : item ∈ items)
    (fresh : item ∉ startedItems calls) (unfinished : item ∉ finishedItems calls) :
    Tracks items (calls ++ [.started item]) (progress.put item.index .running) where
  queued := by
    intro begun other member waits
    have announced : .start items ∈ calls := by simpa using begun
    have started : startedItems [.started item] = [item] := rfl
    rw [startedItems_append, started, List.mem_append, List.mem_singleton, not_or] at waits
    have apart : other.index ≠ item.index :=
      fun same => waits.2 (List.inj_on_of_nodup_map distinct member listed same)
    rw [Indexed.lookup_put_other _ _ apart]
    exact tracks.queued announced other member waits.1
  running := by
    intro other flies
    rcases List.mem_cons.mp ((flying_started distinct listed fresh unfinished).mem_iff.mp flies) with
      rfl | old
    · exact Indexed.lookup_put_self _ _ _
    · have grounded := fresh_grounded items fresh
      rw [Indexed.lookup_put_other _ _ (flying_apart distinct listed grounded other old)]
      exact tracks.running other old

theorem tracks_finished (distinct : (items.map Item.index).Nodup)
    (tracks : Tracks items calls progress) (listed : item ∈ items)
    (begun : item ∈ startedItems calls) (unfinished : item ∉ finishedItems calls)
    (outcome : Outcome) (ended : Progress) :
    Tracks items (calls ++ [.finished item outcome]) (progress.put item.index ended) where
  queued := by
    intro announced other member waits
    have before : .start items ∈ calls := by simpa using announced
    have started : startedItems [.finished item outcome] = [] := rfl
    rw [startedItems_append, started, List.append_nil] at waits
    have apart : other.index ≠ item.index :=
      fun same => waits (List.inj_on_of_nodup_map distinct member listed same ▸ begun)
    rw [Indexed.lookup_put_other _ _ apart]
    exact tracks.queued before other member waits
  running := by
    intro other flies
    have perm := flying_finished distinct listed begun unfinished outcome
    have rest := finished_grounded items calls item outcome
    rw [Indexed.lookup_put_other _ _ (flying_apart distinct listed rest other flies)]
    exact tracks.running other (perm.mem_iff.mpr (List.mem_cons_of_mem _ flies))

end

theorem progress_started {heard : Console × Text} (plain : heard.1.style.interactive = false)
    (queued : heard.1.progress.lookup item.index = some .queued) :
    (heed heard (.started item)).1.progress = heard.1.progress.put item.index .running := by
  simp only [heed, call_started queued, plain, Bool.false_eq_true, if_false]
  rfl

theorem progress_finished {heard : Console × Text} (plain : heard.1.style.interactive = false)
    (running : heard.1.progress.lookup item.index = some .running) (outcome : Outcome) :
    (heed heard (.finished item outcome)).1.progress =
      heard.1.progress.put item.index (verdict outcome) := by
  simp only [heed, call_finished running, plain, Bool.false_eq_true, if_false]
  rfl

/-! A whole course. -/

theorem course_listed (course : Course items calls) (begun : item ∈ startedItems calls) :
    item ∈ items := by
  induction course with
  | idle => cases begun
  | scanning directory => cases begun
  | found directory documents workers => cases begun
  | start directory documents workers => cases begun
  | tick course announced ih =>
      rw [startedItems_append] at begun
      exact ih (by simpa [startedItems, Call.startedItem?] using begun)
  | @started calls other course announced listed fresh ih =>
      rw [startedItems_append] at begun
      rcases List.mem_append.mp begun with old | new
      · exact ih old
      · cases List.mem_singleton.mp new
        exact listed
  | finished course launched unfinished outcome ih =>
      rw [startedItems_append] at begun
      exact ih (by simpa [startedItems, Call.startedItem?] using begun)

theorem course_launched (course : Course items calls) (ended : item ∈ finishedItems calls) :
    item ∈ startedItems calls := by
  induction course with
  | idle => cases ended
  | scanning directory => cases ended
  | found directory documents workers => cases ended
  | start directory documents workers => cases ended
  | tick course announced ih =>
      rw [finishedItems_append] at ended
      rw [startedItems_append]
      exact List.mem_append_left _ (ih (by simpa [finishedItems, Call.finishedItem?] using ended))
  | started course announced listed fresh ih =>
      rw [finishedItems_append] at ended
      rw [startedItems_append]
      exact List.mem_append_left _ (ih (by simpa [finishedItems, Call.finishedItem?] using ended))
  | finished course launched unfinished outcome ih =>
      rw [finishedItems_append] at ended
      rw [startedItems_append]
      rcases List.mem_append.mp ended with old | new
      · exact List.mem_append_left _ (ih old)
      · cases List.mem_singleton.mp new
        exact List.mem_append_left _ launched

/-- The calls that reach a console without a live region, which has no ticks. -/
def untimed (calls : List Call) : List Call := calls.filter fun call => !call.isTick

theorem untimed_append (calls : List Call) {call : Call} (timeless : call.isTick = false) :
    untimed (calls ++ [call]) = untimed calls ++ [call] := by
  simp [untimed, timeless]

theorem untimed_tick (calls : List Call) : untimed (calls ++ [.tick]) = untimed calls := by
  simp [untimed, Call.isTick]

/-! Until the items are announced nothing is in flight. -/

theorem heed_scanning {heard : Console × Text} (idle : heard.1.lifecycle = .idle)
    (directory : Bool) : heed heard (.scanning directory) =
      ({ heard.1 with lifecycle := .scanning }, heard.2 ++ scanningLine directory) := by
  refine heed_write ?_ rfl
  simp only [call, advance, idle]
  rfl

/-- The line about what was found, as far as it is written. -/
def toldFound (documents : Int) (workers : Amount) : Text :=
  (Call.found documents workers).told (foundLine documents workers)

theorem heed_found (heard : Console × Text) (documents : Int) (workers : Amount) :
    heed heard (.found documents workers) =
      (heard.1, heard.2 ++ toldFound documents workers) := by
  have answer : heard.1.call (.found documents workers) =
      .tell heard.1 (.found documents workers) [] (foundLine documents workers) := rfl
  exact heed_tell answer rfl

theorem heed_start {heard : Console × Text} (scanning : heard.1.lifecycle = .scanning)
    (items : List Item) : heed heard (.start items) =
      ({ heard.1 with lifecycle := .running, progress := queue items }, heard.2) := by
  refine heed_accept ?_
  simp only [call, advance, scanning]
  rfl

section

variable (style : ConsoleStyle) (items : List Item) (directory : Bool) (documents : Int)
  (workers : Amount)

theorem hear_scanning : (Console.new style).hear [.scanning directory] =
    ({ Console.new style with lifecycle := .scanning }, [] ++ scanningLine directory) :=
  heed_scanning rfl directory

theorem hear_found : (Console.new style).hear [.scanning directory, .found documents workers] =
    ({ Console.new style with lifecycle := .scanning },
      [] ++ scanningLine directory ++ toldFound documents workers) := by
  have next := hear_append (Console.new style) [.scanning directory] (.found documents workers)
  rw [hear_scanning, heed_found] at next
  exact next

theorem hear_start : (Console.new style).hear
      [.scanning directory, .found documents workers, .start items] =
    ({ Console.new style with lifecycle := .running, progress := queue items },
      [] ++ scanningLine directory ++ toldFound documents workers ++ []) := by
  have next := hear_append (Console.new style) [.scanning directory, .found documents workers]
    (.start items)
  rw [hear_found, heed_start rfl] at next
  rw [List.append_nil]
  exact next

end

theorem tracks_announced {progress : Indexed Progress} (grounded : startedItems calls = [])
    (announced : .start items ∈ calls → progress = queue items) :
    Tracks items calls progress where
  queued := by
    intro begun item listed _
    rw [announced begun]
    exact lookup_queue items listed
  running := by
    intro item flies
    rw [flying_none grounded] at flies
    cases flies

theorem course_agrees (style : ConsoleStyle) (course : Course items calls)
    (distinct : (items.map Item.index).Nodup) (fits : ∀ item ∈ items, Fits item.label)
    (clear : ∀ item outcome, .finished item outcome ∈ calls → escape ∉ outcome.error.getD []) :
    Agrees style items calls ((Console.new { style with interactive := true }).hear calls)
        ((Console.new { style with interactive := false }).hear (untimed calls)) ∧
      Tracks items calls
        ((Console.new { style with interactive := false }).hear (untimed calls)).1.progress := by
  have scanned (directory : Bool) := agrees_settled (agrees_new style items) (.scanning directory)
    rfl rfl rfl rfl (settles_scanning directory) .scanning []
  have found (directory : Bool) (documents : Int) (workers : Amount) :=
    agrees_settled (scanned directory) (.found documents workers) rfl rfl rfl rfl
      (settles_told (.found documents workers) (settles_found documents workers)) .scanning []
  -- Both consoles hear the same calls but for the ticks, so they go through the course together.
  induction course with
  | idle =>
      exact ⟨agrees_new style items, tracks_announced rfl fun begun => nomatch begun⟩
  | scanning directory =>
      have same : untimed [.scanning directory] = [.scanning directory] := rfl
      rw [same, hear_scanning, hear_scanning]
      exact ⟨scanned directory, tracks_announced rfl fun begun => by simp at begun⟩
  | found directory documents workers =>
      have same : untimed [.scanning directory, .found documents workers] =
        [.scanning directory, .found documents workers] := rfl
      rw [same, hear_found, hear_found]
      exact ⟨found directory documents workers, tracks_announced rfl fun begun => by simp at begun⟩
  | start directory documents workers =>
      have same : untimed [.scanning directory, .found documents workers, .start items] =
        [.scanning directory, .found documents workers, .start items] := rfl
      rw [same, hear_start, hear_start]
      exact ⟨agrees_settled (found directory documents workers) (.start items) rfl rfl rfl rfl
        settles_nil .running (queue items), tracks_announced rfl fun _ => rfl⟩
  | tick course announced ih =>
      obtain ⟨agrees, tracks⟩ := ih fun item outcome member =>
        clear item outcome (List.mem_append_left _ member)
      rw [untimed_tick, hear_append]
      exact ⟨agrees_tick distinct fits agrees, tracks_tick tracks⟩
  | @started calls item course announced listed fresh ih =>
      obtain ⟨agrees, tracks⟩ := ih fun item outcome member =>
        clear item outcome (List.mem_append_left _ member)
      have unfinished : item ∉ finishedItems calls := fun ended => fresh (course_launched course ended)
      have queued := tracks.queued announced item listed fresh
      rw [untimed_append calls rfl, hear_append, hear_append]
      refine ⟨agrees_started distinct fits agrees listed fresh unfinished
        (agrees.heard.progress ▸ queued), ?_⟩
      rw [progress_started (by rw [agrees.heard.plain_style]) queued]
      exact tracks_started distinct tracks listed fresh unfinished
  | @finished calls item course begun unfinished outcome ih =>
      obtain ⟨agrees, tracks⟩ := ih fun item outcome member =>
        clear item outcome (List.mem_append_left _ member)
      have listed := course_listed course begun
      have running := tracks.running item (mem_flying.mpr ⟨listed, begun, unfinished⟩)
      rw [untimed_append calls rfl, hear_append, hear_append]
      refine ⟨agrees_finished distinct fits agrees listed begun unfinished
        (agrees.heard.progress ▸ running)
        (clear item outcome (List.mem_append_right _ List.mem_cons_self)), ?_⟩
      rw [progress_finished (by rw [agrees.heard.plain_style]) running]
      exact tracks_finished distinct tracks listed begun unfinished outcome _

/-- The console whose live region is closed, if it has one, and what it writes then. -/
def closing (console : Console) : Console × Text :=
  if console.style.interactive then console.closeLive else (console, [])

theorem closing_keeps (console : Console) : console.closing.1.style = console.style ∧
    console.closing.1.lifecycle = console.lifecycle := by
  unfold closing
  split <;> exact ⟨rfl, rfl⟩

theorem summarize_allowed {console : Console} (summary : Summary)
    (allowed : console.lifecycle.mayBecome .summarized) :
    console.summarize summary = .tell { console.closing.1 with lifecycle := .summarized }
      (.summary summary) console.closing.2 (totalsLine console.style summary) := by
  have done : console.closing.1.advance .summarized =
      .ok { console.closing.1 with lifecycle := .summarized } := by
    rw [advance, (closing_keeps console).2, if_pos allowed]
  unfold closing at done ⊢
  simp only [summarize, done]

theorem summarize_refused {console : Console} (summary : Summary)
    (refused : ¬console.lifecycle.mayBecome .summarized) :
    console.summarize summary = { Reply.write console.closing.1 console.closing.2 with
      refusal := some (.lifecycle console.lifecycle.name Lifecycle.summarized.name) } := by
  have failed : console.closing.1.advance .summarized =
      .error (.lifecycle console.lifecycle.name Lifecycle.summarized.name) := by
    rw [advance, (closing_keeps console).2, if_neg refused]
  unfold closing at failed ⊢
  simp only [summarize, failed]

theorem heed_summary (heard : Console × Text) (summary : Summary) :
    (heed heard (.summary summary)).2 = heard.2 ++ (heard.1.closing.2 ++
      if heard.1.lifecycle.mayBecome .summarized then
        (Call.summary summary).told (totalsLine heard.1.style summary) else []) := by
  have style := (closing_keeps heard.1).1
  split
  case isTrue allowed =>
      have answer : heard.1.call (.summary summary) = _ := summarize_allowed summary allowed
      exact congrArg Prod.snd (heed_tell answer style)
  case isFalse refused =>
      have answer : heard.1.call (.summary summary) = _ := summarize_refused summary refused
      rw [List.append_nil]
      exact congrArg Prod.snd (heed_printed (by rw [answer]; rfl) (by rw [answer]) style)

theorem agrees_summary (agrees : Agrees style items calls live plain) (summary : Summary) :
    ∃ above, blank.after (heed live (.summary summary)).2 = between above true ∧
      blank.after (heed plain (.summary summary)).2 = between above true := by
  obtain ⟨known, above, shown, on⟩ := agrees
  have closed := closeLive_onScreen on
  have totals : Settles (if live.1.lifecycle.mayBecome .summarized then
      (Call.summary summary).told (totalsLine live.1.style summary) else []) := by
    split
    · exact settles_told _ (settles_totals live.1.style summary)
    · exact settles_nil
  obtain ⟨lines, added⟩ := totals
  have same : totalsLine plain.1.style summary = totalsLine live.1.style summary := by
    rw [known.live_style, known.plain_style]
    rfl
  refine ⟨above ++ lines, ?_, ?_⟩
  · rw [heed_summary, closing, if_pos (by rw [known.live_style]), after_append, after_append, closed,
      added]
  · rw [heed_summary, closing, if_neg (by rw [known.plain_style]; exact Bool.false_ne_true),
      known.lifecycle, same, List.nil_append, after_append, shown, added]

def screen (console : Console) (calls : List Call) : Terminal := blank.after (console.hear calls).2

/-- After every course the permanent lines on the screen are those of a console without a live region,
and below them is one line for each item in flight, in the order of the indices, with the frame of the
last tick. After the summary nothing of this is left, and the cursor is shown. -/
theorem live_region_refines_plain_output (style : ConsoleStyle) (items : List Item)
    (calls : List Call) (course : Course items calls) (distinct : (items.map Item.index).Nodup)
    (fits : ∀ item ∈ items, Fits item.label)
    (clear : ∀ item outcome, .finished item outcome ∈ calls → escape ∉ outcome.error.getD []) :
    let live := Console.new { style with interactive := true }
    let plain := Console.new { style with interactive := false }
    let inFlight := flying items calls
    inFlight.Pairwise (fun one other => one.index < other.index) ∧
      (∀ item, item ∈ inFlight ↔
        item ∈ items ∧ item ∈ startedItems calls ∧ item ∉ finishedItems calls) ∧
      ∃ permanent,
        screen plain (untimed calls) = between permanent true ∧
        (∃ shown, screen live calls =
          between (permanent ++ inFlight.map fun item => liveRow (ticks calls) item.label) shown) ∧
        ∀ summary, ∃ final,
          screen plain (untimed calls ++ [.summary summary]) = between final true ∧
          screen live (calls ++ [.summary summary]) = between final true := by
  intro live plain inFlight
  have agrees := (course_agrees style course distinct fits clear).1
  -- Both consoles are followed along one course; their screens agree after each call of it.
  obtain ⟨-, permanent, shown, on⟩ := id agrees
  refine ⟨flying_ascending distinct calls, fun _ => mem_flying, permanent, shown, ⟨_, on.lines⟩,
    fun summary => ?_⟩
  obtain ⟨final, liveFinal, plainFinal⟩ := agrees_summary agrees summary
  refine ⟨final, ?_, ?_⟩
  · rw [screen, hear_append, plainFinal]
  · rw [screen, hear_append, liveFinal]

def twoItems : List Item := [⟨default, "a.md:1", 0⟩, ⟨default, "a.md:9", 1⟩]

def bothFlying : List Call :=
  [.scanning true, .found 1 2, .start twoItems, .started ⟨default, "a.md:9", 1⟩, .tick,
    .started ⟨default, "a.md:1", 0⟩]

def oneLanded : List Call :=
  bothFlying ++ [.finished ⟨default, "a.md:9", 1⟩ (.fail default "boom\nat x" 3 false)]

theorem live_region_refines_plain_output_two_items :
    let style : ConsoleStyle := ⟨.output, false, true, false⟩
    let live := Console.new { style with interactive := true }
    Course twoItems oneLanded ∧ (twoItems.map Item.index).Nodup ∧
      (∀ item ∈ twoItems, Fits item.label) ∧
      (∀ item outcome, .finished item outcome ∈ oneLanded → escape ∉ outcome.error.getD []) ∧
      ∃ permanent shown,
        screen live oneLanded = between (permanent ++ [liveRow 1 "a.md:1"]) shown := by
  intro style live
  have both : Course twoItems bothFlying :=
    .started (.tick (.started (.start true 1 2) (by simp) (by decide) (by decide)) (by simp))
      (by simp) (by decide) (by decide)
  have course : Course twoItems oneLanded := .finished both (by decide) (by decide) _
  have distinct : (twoItems.map Item.index).Nodup := by decide
  have fits : ∀ item ∈ twoItems, Fits item.label := by
    unfold Fits
    decide
  have clear : ∀ item outcome, .finished item outcome ∈ oneLanded →
      escape ∉ outcome.error.getD [] := by
    intro item outcome member
    simp only [oneLanded, bothFlying, List.cons_append, List.nil_append, List.mem_cons, reduceCtorEq,
      false_or, List.not_mem_nil, or_false, Call.finished.injEq] at member
    rw [member.2]
    decide
  obtain ⟨-, -, permanent, -, ⟨shown, seen⟩, -⟩ :=
    live_region_refines_plain_output style twoItems oneLanded course distinct fits clear
  have flies : flying twoItems oneLanded = [⟨default, "a.md:1", 0⟩] := by decide +kernel
  rw [flies] at seen
  exact ⟨course, distinct, fits, clear, permanent, shown, seen⟩

end Console

end FenceCheck

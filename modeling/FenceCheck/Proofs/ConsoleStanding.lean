import FenceCheck.Proofs.LiveOutput

/-!
Where a console stands in a run: the stage of the run, how far each item is, and the items in flight.
Which calls it accepts depends on this alone, and so does what an accepted call makes of it; a call
that is refused changes nothing of it. Along any calls, in any order and with any of them refused, the
run and each of its items go through their stages in order, and the items in flight are those that are
running.
-/

namespace FenceCheck

theorem Indexed.mem_keys_remove {α : Type} {entries : Indexed α} {index other : Int} :
    other ∈ (entries.remove index).map (·.1) ↔ other ∈ entries.map (·.1) ∧ other ≠ index := by
  simp only [remove, List.mem_map, List.mem_filter, decide_eq_true_eq]
  constructor
  · rintro ⟨entry, ⟨member, different⟩, rfl⟩
    exact ⟨⟨entry, member, rfl⟩, different⟩
  · rintro ⟨⟨entry, member, rfl⟩, different⟩
    exact ⟨entry, ⟨member, different⟩, rfl⟩

/-- The stages of a run come in this order, where one that has nothing to run leaves out its second. -/
def Lifecycle.Course (stages : List Lifecycle) : Prop :=
  stages <+: [.scanning, .running, .summarized, .done] ∨ stages <+: [.scanning, .summarized, .done]

/-- An item waits, runs and then passes or fails. -/
def Progress.Course (steps : List Progress) : Prop :=
  steps <+: [.queued, .running, .passed] ∨ steps <+: [.queued, .running, .failed]

theorem Lifecycle.mayBecome_running {lifecycle : Lifecycle} :
    lifecycle.mayBecome .running = true ↔ lifecycle = .scanning := by
  cases lifecycle <;> decide

theorem Lifecycle.Course.append {stages : List Lifecycle} {next : Lifecycle} (course : Course stages)
    (allowed : (stages.getLastD .idle).mayBecome next = true) : Course (stages ++ [next]) := by
  unfold Course at course ⊢
  simp only [List.prefix_cons_iff, List.prefix_nil] at course
  rcases course with (rfl | ⟨_, rfl, rfl | ⟨_, rfl, rfl | ⟨_, rfl, rfl | ⟨_, rfl, rfl⟩⟩⟩⟩) |
    (rfl | ⟨_, rfl, rfl | ⟨_, rfl, rfl | ⟨_, rfl, rfl⟩⟩⟩)
  all_goals cases next <;> first | decide | cases allowed

theorem Lifecycle.Course.unstarted {stages : List Lifecycle} (course : Course stages)
    (early : stages.getLastD .idle = .idle ∨ stages.getLastD .idle = .scanning) :
    .running ∉ stages := by
  unfold Course at course
  simp only [List.prefix_cons_iff, List.prefix_nil] at course
  rcases course with (rfl | ⟨_, rfl, rfl | ⟨_, rfl, rfl | ⟨_, rfl, rfl | ⟨_, rfl, rfl⟩⟩⟩⟩) |
    (rfl | ⟨_, rfl, rfl | ⟨_, rfl, rfl | ⟨_, rfl, rfl⟩⟩⟩)
  all_goals revert early; decide

theorem Progress.Course.of_last {steps : List Progress} {last : Progress} (course : Course steps)
    (here : steps.getLast? = some last) :
    (last = .queued → steps = [.queued]) ∧ (last = .running → steps = [.queued, .running]) := by
  unfold Course at course
  simp only [List.prefix_cons_iff, List.prefix_nil] at course
  rcases course with (rfl | ⟨_, rfl, rfl | ⟨_, rfl, rfl | ⟨_, rfl, rfl⟩⟩⟩) |
    (rfl | ⟨_, rfl, rfl | ⟨_, rfl, rfl | ⟨_, rfl, rfl⟩⟩⟩)
  all_goals cases here <;> decide

theorem Progress.Course.first {steps : List Progress} (course : Course steps) :
    steps = [] ∨ .queued ∈ steps := by
  rcases course with course | course
  all_goals
    rcases List.prefix_cons_iff.mp course with none | ⟨rest, some, -⟩
    · exact Or.inl none
    · exact Or.inr (some ▸ List.mem_cons_self)

namespace Console

structure Standing where
  lifecycle : Lifecycle
  progress : Indexed Progress
  inFlight : Indexed Text

def standing (console : Console) : Standing :=
  ⟨console.lifecycle, console.progress, console.inFlight⟩

def Call.stage? : Call → Option Lifecycle
  | .scanning _ => some .scanning
  | .start _ => some .running
  | .summary _ => some .summarized
  | .close => some .done
  | .found .. | .warning _ | .error _ | .noBlocks | .started _ | .finished .. | .tick => none

def Call.step? (index : Int) : Call → Option Progress
  | .start items => if index ∈ items.map Item.index then some .queued else none
  | .started item => if item.index = index then some .running else none
  | .finished item outcome => if item.index = index then some (verdict outcome) else none
  | .scanning _ | .found .. | .warning _ | .error _ | .noBlocks | .tick | .summary _ | .close => none

namespace Standing

/-- Whether a call fits the course of the run or of its item. -/
def accepts (standing : Standing) : Call → Bool
  | .scanning _ => standing.lifecycle.mayBecome .scanning
  | .start _ => standing.lifecycle.mayBecome .running
  | .started item => standing.progress.lookup item.index = some .queued
  | .finished item _ => standing.progress.lookup item.index = some .running
  | .summary _ => standing.lifecycle.mayBecome .summarized
  | .close => standing.lifecycle.mayBecome .done
  | .found .. | .warning _ | .error _ | .noBlocks | .tick => true

/-- What a call that is accepted makes of it. -/
def after (standing : Standing) : Call → Standing
  | .scanning _ => { standing with lifecycle := .scanning }
  | .start items => { standing with lifecycle := .running, progress := queue items }
  | .started item =>
      { standing with
        progress := standing.progress.put item.index .running
        inFlight := standing.inFlight.put item.index item.label }
  | .finished item outcome =>
      { standing with
        progress := standing.progress.put item.index (verdict outcome)
        inFlight := standing.inFlight.remove item.index }
  | .summary _ => { standing with lifecycle := .summarized }
  | .close => { standing with lifecycle := .done }
  | .found .. | .warning _ | .error _ | .noBlocks | .tick => standing

end Standing

variable {console : Console} {call : Call}

/-! Drawing changes neither how a console was set up nor where it stands. -/

theorem draw_style (console : Console) : console.draw.1.style = console.style := by
  by_cases empty : console.inFlight.isEmpty = true
  · rw [draw, if_pos empty]
  · rw [draw, if_neg empty]

@[simp] theorem standing_draw (console : Console) : console.draw.1.standing = console.standing := by
  obtain ⟨drawn, cursorHidden, changes⟩ := draw_changes console
  rw [changes]
  rfl

@[simp] theorem standing_redraw (console : Console) :
    console.redraw.1.standing = console.standing :=
  standing_draw console.erase.1

@[simp] theorem standing_closing (console : Console) :
    console.closing.1.standing = console.standing := by
  unfold closing
  split <;> rfl

theorem advance_ok {next : Lifecycle} (allowed : console.lifecycle.mayBecome next = true) :
    console.advance next = .ok { console with lifecycle := next } :=
  if_pos allowed

theorem advance_refused {next : Lifecycle} (refused : console.lifecycle.mayBecome next = false) :
    console.advance next = .error (.lifecycle console.lifecycle.name next.name) :=
  if_neg (by simp [refused])

theorem call_refused (unfit : console.standing.accepts call = false)
    (other : ∀ summary, call ≠ .summary summary) :
    ∃ failure, console.call call = .refuse console failure := by
  cases call with
  | found | warning | error | noBlocks | tick => cases unfit
  | summary summary => exact absurd rfl (other summary)
  | scanning | start | close =>
      rw [Console.call, advance_refused unfit]
      exact ⟨_, rfl⟩
  | started item =>
      have absent : console.progress.lookup item.index ≠ some .queued := of_decide_eq_false unfit
      rw [Console.call, itemStarted, moveItem, if_neg absent]
      exact ⟨_, rfl⟩
  | finished item outcome =>
      have absent : console.progress.lookup item.index ≠ some .running := of_decide_eq_false unfit
      rw [Console.call, itemFinished, moveItem, if_neg absent]
      exact ⟨_, rfl⟩

theorem call_accepted (fits : console.standing.accepts call = true) :
    (console.call call).refusal = call.untold? ∧
      (console.call call).console.standing = console.standing.after call := by
  cases call with
  | found | warning | error | noBlocks => exact ⟨rfl, rfl⟩
  | scanning | start | close =>
      rw [Console.call, advance_ok fits]
      exact ⟨rfl, rfl⟩
  | tick =>
      rw [Console.call]
      split
      · exact ⟨rfl, rfl⟩
      · exact ⟨rfl, standing_redraw _⟩
  | summary summary =>
      rw [Console.call, summarize_allowed summary fits]
      exact ⟨rfl, congrArg (fun standing => { standing with lifecycle := .summarized })
        (standing_closing console)⟩
  | started item =>
      rw [call_started (of_decide_eq_true fits)]
      split
      · exact ⟨rfl, standing_redraw _⟩
      · exact ⟨rfl, rfl⟩
  | finished item outcome =>
      rw [call_finished (of_decide_eq_true fits)]
      split
      · exact ⟨rfl, standing_draw _⟩
      · exact ⟨rfl, rfl⟩

theorem summary_refused {summary : Summary}
    (unfit : console.standing.accepts (.summary summary) = false) :
    ∃ failure, console.call (.summary summary) =
      { Reply.write console.closing.1 console.closing.2 with refusal := some failure } :=
  ⟨_, summarize_refused summary (Bool.eq_false_iff.mp unfit)⟩

theorem Call.untold?_isNone (call : Call) : call.untold?.isNone = call.isTold := by
  unfold untold?
  cases call.isTold <;> rfl

/-- A console returns from just the calls that fit and can be told, and only those that fit change where
it stands. -/
theorem call_standing (console : Console) (call : Call) :
    (console.call call).refusal.isNone = (console.standing.accepts call && call.isTold) ∧
      (console.call call).console.standing =
        if console.standing.accepts call then console.standing.after call
        else console.standing := by
  cases fits : console.standing.accepts call with
  | true =>
      obtain ⟨answer, moved⟩ := call_accepted fits
      rw [answer, moved, Call.untold?_isNone]
      exact ⟨rfl, rfl⟩
  | false =>
      by_cases other : ∀ summary, call ≠ .summary summary
      · obtain ⟨failure, answer⟩ := call_refused fits other
        rw [answer]
        exact ⟨rfl, rfl⟩
      · push Not at other
        obtain ⟨summary, rfl⟩ := other
        obtain ⟨failure, answer⟩ := summary_refused fits
        rw [answer]
        exact ⟨rfl, standing_closing console⟩

theorem refusal_none (console : Console) (call : Call) :
    (console.call call).refusal = none ↔
      console.standing.accepts call = true ∧ call.isTold = true := by
  rw [← Option.isNone_iff_eq_none, (call_standing console call).1, Bool.and_eq_true]

/-- A call changes what a console knows and shows, but not how it was set up. -/
theorem call_style (console : Console) (call : Call) :
    (console.call call).console.style = console.style := by
  cases fits : console.standing.accepts call with
  | false =>
      by_cases other : ∀ summary, call ≠ .summary summary
      · obtain ⟨failure, answer⟩ := call_refused fits other
        rw [answer]
        rfl
      · push Not at other
        obtain ⟨summary, rfl⟩ := other
        obtain ⟨failure, answer⟩ := summary_refused fits
        rw [answer]
        exact (closing_keeps console).1
  | true =>
      cases call with
      | found | warning | error | noBlocks => rfl
      | scanning | start | close =>
          rw [Console.call, advance_ok fits]
          rfl
      | tick =>
          rw [Console.call]
          split
          · rfl
          · exact draw_style _
      | summary summary =>
          rw [Console.call, summarize_allowed summary fits]
          exact (closing_keeps console).1
      | started item =>
          rw [call_started (of_decide_eq_true fits)]
          split
          · exact draw_style _
          · rfl
      | finished item outcome =>
          rw [call_finished (of_decide_eq_true fits)]
          split
          · exact draw_style _
          · rfl

/-! Along calls. -/

def reached (console : Console) (calls : List Call) : Console :=
  calls.foldl (fun console call => (console.call call).console) console

/-- The calls that take effect: those that fit. Where the line of one cannot be written it fails, but
not before it has taken effect. -/
def accepted (console : Console) : List Call → List Call
  | [] => []
  | call :: rest =>
      if console.standing.accepts call then call :: accepted (console.call call).console rest
      else accepted (console.call call).console rest

def stages (calls : List Call) : List Lifecycle := calls.filterMap Call.stage?

/-- The steps of the item with an index that calls bring about. -/
def steps (index : Int) (calls : List Call) : List Progress := calls.filterMap (Call.step? index)

/-- The run and each item went through their stages in order, none of them twice, and stand where the
last one has brought them; the items in flight are those that are running, each under the label that
it was started with. -/
structure Consistent (standing : Standing) (accepted : List Call) : Prop where
  forward : Lifecycle.Course (stages accepted)
  lifecycle : standing.lifecycle = (stages accepted).getLastD .idle
  course : ∀ index, Progress.Course (steps index accepted)
  progress : ∀ index, standing.progress.lookup index = (steps index accepted).getLast?
  keys : (standing.inFlight.map (·.1)).Nodup
  flying : ∀ index, index ∈ standing.inFlight.map (·.1) ↔
    standing.progress.lookup index = some .running
  labels : ∀ index label, (index, label) ∈ standing.inFlight →
    ∃ item, .started item ∈ accepted ∧ item.index = index ∧ item.label = label

variable {standing : Standing} {before : List Call} {index : Int}

theorem stages_append (call : Call) :
    stages (before ++ [call]) = stages before ++ call.stage?.toList := by
  simp only [stages, List.filterMap_append]
  cases call <;> rfl

theorem steps_append (index : Int) (call : Call) :
    steps index (before ++ [call]) = steps index before ++ (call.step? index).toList := by
  simp only [steps, List.filterMap_append, List.filterMap_cons, List.filterMap_nil]
  cases call.step? index <;> rfl

theorem consistent_new (style : ConsoleStyle) : Consistent (new style).standing [] where
  forward := Or.inl List.nil_prefix
  lifecycle := rfl
  course := fun _ => Or.inl List.nil_prefix
  progress := fun _ => rfl
  keys := List.nodup_nil
  flying := fun index => by simp [Console.standing, new]
  labels := fun _ _ member => absurd member List.not_mem_nil

theorem lookup_queue_eq (items : List Item) (index : Int) :
    (queue items).lookup index =
      if index ∈ items.map Item.index then some .queued else none := by
  have kept (entries : Indexed Progress) :
      (items.foldl (fun entries item => entries.put item.index .queued) entries).lookup index =
        if index ∈ items.map Item.index then some .queued else entries.lookup index := by
    induction items generalizing entries with
    | nil => rfl
    | cons first rest ih =>
        rw [List.foldl_cons, ih, Indexed.lookup_put, List.map_cons]
        by_cases later : index ∈ rest.map Item.index
        · simp only [later, List.mem_cons, or_true, if_true]
        · simp only [later, List.mem_cons, or_false, if_false]
  exact kept []

theorem verdict_settled (outcome : Outcome) :
    verdict outcome ≠ .queued ∧ verdict outcome ≠ .running := by
  unfold verdict
  split <;> decide

theorem running_of_queued (queued : .queued ∈ steps index before) : .running ∈ stages before := by
  obtain ⟨call, member, step⟩ := List.mem_filterMap.mp queued
  cases call with
  | start items => exact List.mem_filterMap.mpr ⟨_, member, rfl⟩
  | started item => simp [Call.step?] at step
  | finished item outcome => simp [Call.step?, verdict_settled] at step
  | scanning | found | warning | error | noBlocks | tick | summary | close => cases step

theorem Consistent.unannounced (consistent : Consistent standing before)
    (early : standing.lifecycle = .idle ∨ standing.lifecycle = .scanning) (index : Int) :
    steps index before = [] := by
  rw [consistent.lifecycle] at early
  exact (consistent.course index).first.resolve_right fun queued =>
    consistent.forward.unstarted early (running_of_queued queued)

theorem Consistent.step_follows (consistent : Consistent standing before) {call : Call}
    {next : Progress} (fits : standing.accepts call = true) (step : call.step? index = some next) :
    Progress.Course (steps index before ++ [next]) := by
  have last := consistent.progress index
  cases call with
  | start items =>
      -- Before the start nothing is known of any item, so this is its first step.
      have fresh := consistent.unannounced (Or.inr (Lifecycle.mayBecome_running.mp fits)) index
      simp only [Call.step?, Option.ite_none_right_eq_some, Option.some.injEq] at step
      obtain ⟨-, rfl⟩ := step
      rw [fresh]
      exact Or.inl (by decide)
  | started item =>
      simp only [Call.step?, Option.ite_none_right_eq_some, Option.some.injEq] at step
      obtain ⟨rfl, rfl⟩ := step
      rw [of_decide_eq_true fits] at last
      rw [((consistent.course _).of_last last.symm).1 rfl]
      exact Or.inl (by decide)
  | finished item outcome =>
      simp only [Call.step?, Option.ite_none_right_eq_some, Option.some.injEq] at step
      obtain ⟨rfl, rfl⟩ := step
      rw [of_decide_eq_true fits] at last
      rw [((consistent.course _).of_last last.symm).2 rfl]
      unfold verdict
      split
      · exact Or.inl (by decide)
      · exact Or.inr (by decide)
  | scanning | found | warning | error | noBlocks | tick | summary | close => cases step

theorem Consistent.after_lookup (consistent : Consistent standing before) {call : Call}
    (fits : standing.accepts call = true) (index : Int) :
    (standing.after call).progress.lookup index =
      (call.step? index).or (standing.progress.lookup index) := by
  cases call with
  | start items =>
      have fresh := consistent.unannounced (Or.inr (Lifecycle.mayBecome_running.mp fits)) index
      rw [consistent.progress, fresh]
      simp only [Standing.after, lookup_queue_eq, Call.step?]
      split <;> rfl
  | started item | finished item outcome =>
      simp only [Standing.after, Indexed.lookup_put, Call.step?, eq_comm]
      split <;> rfl
  | scanning | found | warning | error | noBlocks | tick | summary | close => rfl

theorem Standing.accepts_stage {call : Call} {next : Lifecycle}
    (fits : standing.accepts call = true) (stage : call.stage? = some next) :
    standing.lifecycle.mayBecome next = true := by
  cases call <;> cases stage <;> exact fits

theorem Standing.after_lifecycle (standing : Standing) (call : Call) :
    (standing.after call).lifecycle = call.stage?.getD standing.lifecycle := by
  cases call <;> rfl

theorem Consistent.after_flying (consistent : Consistent standing before) {call : Call}
    (fits : standing.accepts call = true) :
    ((standing.after call).inFlight.map (·.1)).Nodup ∧
      (∀ index, index ∈ (standing.after call).inFlight.map (·.1) ↔
        (standing.after call).progress.lookup index = some .running) ∧
      ∀ index label, (index, label) ∈ (standing.after call).inFlight →
        (index, label) ∈ standing.inFlight ∨
          ∃ item, call = .started item ∧ item.index = index ∧ item.label = label := by
  obtain ⟨-, -, -, -, keys, flying, -⟩ := id consistent
  cases call with
  | scanning | found | warning | error | noBlocks | tick | summary | close =>
      exact ⟨keys, flying, fun _ _ member => Or.inl member⟩
  | start items =>
      refine ⟨keys, fun index => ?_, fun _ _ member => Or.inl member⟩
      have fresh := consistent.unannounced (Or.inr (Lifecycle.mayBecome_running.mp fits)) index
      have grounded := flying index
      rw [consistent.progress, fresh] at grounded
      simp only [Standing.after, grounded, lookup_queue_eq]
      split <;> simp
  | started item =>
      have queued := of_decide_eq_true fits
      have absent : item.index ∉ standing.inFlight.map (·.1) := by
        rw [flying, queued]
        decide
      have added : (standing.after (.started item)).inFlight =
          standing.inFlight ++ [(item.index, item.label)] :=
        Indexed.put_new _ _ fun entry member same =>
          absent (same ▸ List.mem_map_of_mem member)
      rw [added, List.map_append]
      refine ⟨?_, fun index => ?_, fun index label member => ?_⟩
      · exact List.concat_eq_append ▸ keys.concat absent
      · simp only [List.mem_append, flying, Standing.after, Indexed.lookup_put, List.map_cons,
          List.map_nil, List.mem_singleton]
        split <;> simp_all
      · rcases List.mem_append.mp member with old | new
        · exact Or.inl old
        · obtain ⟨rfl, rfl⟩ := Prod.mk.inj (List.mem_singleton.mp new)
          exact Or.inr ⟨item, rfl, rfl, rfl⟩
  | finished item outcome =>
      have kept : (standing.inFlight.remove item.index).Sublist standing.inFlight :=
        List.filter_sublist
      refine ⟨(kept.map _).nodup keys, fun index => ?_, fun _ _ member =>
        Or.inl (kept.subset member)⟩
      simp only [Standing.after, Indexed.mem_keys_remove, flying, Indexed.lookup_put]
      split
      case isTrue here => simp [here, verdict_settled]
      case isFalse away => simp [away]

theorem consistent_step (consistent : Consistent standing before) {call : Call}
    (fits : standing.accepts call = true) :
    Consistent (standing.after call) (before ++ [call]) := by
  obtain ⟨keys, flying, labels⟩ := consistent.after_flying fits
  constructor
  case forward =>
      rw [stages_append]
      cases stage : call.stage? with
      | none => simpa using consistent.forward
      | some next =>
          exact consistent.forward.append
            (consistent.lifecycle ▸ Standing.accepts_stage fits stage)
  case lifecycle =>
      rw [stages_append, Standing.after_lifecycle]
      cases call.stage? with
      | none => simpa using consistent.lifecycle
      | some next => simp
  case course =>
      intro index
      rw [steps_append]
      cases step : call.step? index with
      | none => simpa using consistent.course index
      | some next => exact consistent.step_follows fits step
  case progress =>
      intro index
      rw [consistent.after_lookup fits, steps_append]
      cases call.step? index with
      | none => simpa using consistent.progress index
      | some next => simp
  case keys => exact keys
  case flying => exact flying
  case labels =>
      intro index label member
      rcases labels index label member with old | ⟨item, rfl, known⟩
      · obtain ⟨item, started, known⟩ := consistent.labels index label old
        exact ⟨item, List.mem_append_left _ started, known⟩
      · exact ⟨item, List.mem_append_right _ List.mem_cons_self, known⟩

theorem consistent_reached (console : Console) (calls before : List Call)
    (consistent : Consistent console.standing before) :
    Consistent (console.reached calls).standing (before ++ console.accepted calls) := by
  induction calls generalizing console before with
  | nil => simpa [reached, accepted] using consistent
  | cons call rest ih =>
      have moved := (call_standing console call).2
      rw [accepted]
      cases fits : console.standing.accepts call with
      | false =>
          rw [fits, if_neg Bool.false_ne_true] at moved
          exact ih _ before (moved ▸ consistent)
      | true =>
          rw [fits, if_pos rfl] at moved
          have later := ih _ (before ++ [call]) (moved ▸ consistent_step consistent fits)
          rwa [List.append_assoc] at later

end Console

end FenceCheck

import FenceCheck.Proofs.Fallible
import FenceCheck.Proofs.ShownNumber
import FenceCheck.Run.Discovery

/-!
Work that only adds to the record. What such work gives and what it records does not depend on what
was recorded before it, so work is followed step by step, each step adding its events.
-/

namespace FenceCheck

namespace Work

variable {α β : Type}

/-- From any record the work ends with a result and has added these events. -/
def Gives (work : Work α) (result : Except Failure α) (events : Transcript) : Prop :=
  ∀ before, work.run.run before = (result, before ++ events)

theorem gives_perform {work : Work α} {result : Except Failure α} {events : Transcript}
    (gives : work.Gives result events) : work.perform = (result, events) :=
  gives []

theorem gives_pure (value : α) : (pure value : Work α).Gives (.ok value) [] := by
  intro before
  rw [List.append_nil]
  rfl

theorem gives_ofExcept (result : Except Failure α) : (ofExcept result).Gives result [] := by
  intro before
  rw [List.append_nil]
  rfl

theorem gives_record (events : Transcript) : (record events).Gives (.ok ()) events :=
  fun _ => rfl

theorem gives_bind {work : Work α} {next : α → Work β} {value : α} {result : Except Failure β}
    {events more : Transcript} (first : work.Gives (.ok value) events)
    (second : (next value).Gives result more) : (work >>= next).Gives result (events ++ more) := by
  intro before
  have here := first before
  have there := second (before ++ events)
  rw [List.append_assoc] at there
  simp only [ExceptT.run_bind, StateT.run_bind, here]
  exact there

theorem gives_bind_error {work : Work α} {next : α → Work β} {failure : Failure}
    {events : Transcript} (first : work.Gives (.error failure) events) :
    (work >>= next).Gives (.error failure) events := by
  intro before
  have here := first before
  simp only [ExceptT.run_bind, StateT.run_bind, here]
  rfl

theorem gives_throw (failure : Failure) : (throw failure : Work α).Gives (.error failure) [] := by
  intro before
  rw [List.append_nil]
  rfl

theorem gives_tryCatch {work : Work α} {handler : Failure → Work α} {value : α}
    {events : Transcript} (first : work.Gives (.ok value) events) :
    (tryCatch work handler).Gives (.ok value) events := by
  intro before
  have here : StateT.run work before = (.ok value, before ++ events) := first before
  simp only [tryCatch, tryCatchThe, MonadExceptOf.tryCatch, ExceptT.tryCatch, ExceptT.run_mk,
    StateT.run_bind, here]
  rfl

theorem gives_tryCatch_error {work : Work α} {handler : Failure → Work α} {failure : Failure}
    {result : Except Failure α} {events more : Transcript}
    (first : work.Gives (.error failure) events) (second : (handler failure).Gives result more) :
    (tryCatch work handler).Gives result (events ++ more) := by
  intro before
  have here : StateT.run work before = (.error failure, before ++ events) := first before
  have there := second (before ++ events)
  rw [List.append_assoc] at there
  simp only [tryCatch, tryCatchThe, MonadExceptOf.tryCatch, ExceptT.tryCatch, ExceptT.run_mk,
    StateT.run_bind, here]
  exact there

/-- Work whose result and events do not depend on the record. -/
def Appends (work : Work α) : Prop := work.Gives work.perform.1 work.perform.2

theorem Gives.appends {work : Work α} {result : Except Failure α} {events : Transcript}
    (gives : work.Gives result events) : work.Appends := by
  unfold Appends
  rw [gives_perform gives]
  exact gives

theorem Appends.gives {work : Work α} {result : Except Failure α} {events : Transcript}
    (appends : work.Appends) (performed : work.perform = (result, events)) :
    work.Gives result events := by
  unfold Appends at appends
  rw [performed] at appends
  exact appends

theorem appends_bind {work : Work α} {next : α → Work β} (first : work.Appends)
    (second : ∀ value, (next value).Appends) : (work >>= next).Appends := by
  unfold Appends at first
  cases ended : work.perform.1 with
  | ok value =>
      rw [ended] at first
      exact (gives_bind first (second value)).appends
  | error failure =>
      rw [ended] at first
      exact (gives_bind_error first).appends

/-- A result that needs no work passes to what follows, or ends the work. -/
theorem perform_ofExcept_bind {result : Except Failure α} {next : α → Work β} :
    (ofExcept result >>= next).perform.1 = (result >>= fun value => (next value).perform.1) := by
  cases result with
  | error failure => exact congrArg Prod.fst (gives_perform (gives_bind_error (gives_ofExcept _)))
  | ok value => rfl

theorem gives_forM (items : List α) {work : α → Work Unit}
    (each : ∀ item, ∃ events, (work item).Gives (.ok ()) events) :
    ∃ events, (items.forM work).Gives (.ok ()) events := by
  rw [List.forM_eq_forM]
  induction items with
  | nil => exact ⟨[], gives_pure ()⟩
  | cons item rest ih =>
      obtain ⟨events, first⟩ := each item
      obtain ⟨more, others⟩ := ih
      rw [List.forM_cons]
      exact ⟨_, gives_bind first others⟩

/-- Whatever was recorded before, the work adds events of this kind only. -/
def Tells (work : Work α) (kind : Event → Prop) : Prop :=
  ∀ before, ∃ events, (work.run.run before).2 = before ++ events ∧ ∀ event ∈ events, kind event

section

variable {kind : Event → Prop}

theorem Tells.perform {work : Work α} (tells : work.Tells kind) :
    ∀ event ∈ work.perform.2, kind event := by
  obtain ⟨events, recorded, told⟩ := tells []
  rw [List.nil_append] at recorded
  unfold Work.perform
  rw [recorded]
  exact told

theorem tells_record {events : Transcript} (told : ∀ event ∈ events, kind event) :
    (record events).Tells kind :=
  fun _ => ⟨events, rfl, told⟩

theorem tells_pure (value : α) : (pure value : Work α).Tells kind :=
  fun before => ⟨[], (List.append_nil before).symm, List.forall_mem_nil _⟩

theorem tells_ofExcept (result : Except Failure α) : (ofExcept result).Tells kind :=
  fun before => ⟨[], (List.append_nil before).symm, List.forall_mem_nil _⟩

theorem tells_bind {work : Work α} {next : α → Work β} (first : work.Tells kind)
    (second : ∀ value, (next value).Tells kind) : (work >>= next).Tells kind := by
  intro before
  obtain ⟨events, recorded, told⟩ := first before
  cases ran : work.run.run before with
  | mk result after =>
      rw [ran] at recorded
      subst recorded
      simp only [ExceptT.run_bind, StateT.run_bind, ran]
      cases result with
      | error failure => exact ⟨events, rfl, told⟩
      | ok value =>
          obtain ⟨more, continued, others⟩ := second value (before ++ events)
          rw [List.append_assoc] at continued
          exact ⟨events ++ more, continued, List.forall_mem_append.mpr ⟨told, others⟩⟩

theorem tells_forM (items : List α) (work : α → Work Unit) (each : ∀ item, (work item).Tells kind) :
    (items.forM work).Tells kind := by
  rw [List.forM_eq_forM]
  induction items with
  | nil => exact tells_pure ()
  | cons item rest ih =>
      rw [List.forM_cons]
      exact tells_bind (each item) fun _ => ih

end

end Work

theorem Log.written_ok {context : Context} {clock : Clock} {entry : Log.Entry}
    (told : entry.isTold = true) :
    Log.written context clock entry = .ok (Log.line context clock entry) :=
  if_pos told

theorem Log.written_untold {context : Context} {clock : Clock} {entry : Log.Entry}
    (untold : entry.isTold = false) :
    Log.written context clock entry = .error (.scalar .hugeInteger) :=
  if_neg (Bool.eq_false_iff.mp untold)

theorem Log.event_appends (machine : Machine) (context : Option Context) (entry : Log.Entry) :
    (Log.event machine context entry).Appends := by
  unfold Log.event
  cases context with
  | none => exact (Work.gives_pure ()).appends
  | some context =>
      simp only
      split
      · exact Work.appends_bind (Work.gives_ofExcept _).appends fun line =>
          (Work.gives_record _).appends
      · exact (Work.gives_pure ()).appends

/-- Logging fails on nothing but a number that is too long to be written. -/
theorem Log.event_gives (machine : Machine) (context : Option Context) {entry : Log.Entry}
    (told : entry.isTold = true) :
    ∃ events, (Log.event machine context entry).Gives (.ok ()) events := by
  unfold Log.event
  cases context with
  | none => exact ⟨_, Work.gives_pure ()⟩
  | some context =>
      simp only [written_ok told]
      split
      · exact ⟨_, Work.gives_bind (Work.gives_ofExcept _) (Work.gives_record _)⟩
      · exact ⟨_, Work.gives_pure ()⟩

namespace Discovery

theorem report_gives (machine : Machine) (context : Option Context) (warns : Bool) (base : Path)
    (fence : OpenFence) : ∃ events, (report machine context warns base fence).Gives (.ok ()) events := by
  unfold report
  let entry : Log.Entry :=
    { level := "warning", component := "extractor", action := "unterminated-fence"
      fields := [("label", .str (placeLabel base fence.origin fence.line))] }
  obtain ⟨events, logged⟩ := Log.event_gives machine context (show entry.isTold = true from rfl)
  cases warns
  · exact ⟨events, logged⟩
  · exact ⟨_, Work.gives_bind (Work.gives_record _) logged⟩

theorem foundEntry_told (discovery : Discovery) : (foundEntry discovery).isTold = true := by
  simp [Log.Entry.isTold, foundEntry]

theorem telling_gives (machine : Machine) (context : Option Context) (warns : Bool) (base : Path)
    (extraction : Extraction) (discovery : Discovery) :
    ∃ events, (do
      extraction.unclosed.forM (report machine context warns base)
      Log.event machine context (foundEntry discovery)
      return discovery : Work Discovery).Gives (.ok discovery) events := by
  obtain ⟨events, reported⟩ := Work.gives_forM extraction.unclosed
    (report_gives machine context warns base)
  obtain ⟨more, logged⟩ := Log.event_gives machine context (foundEntry_told discovery)
  exact ⟨_, Work.gives_bind reported (Work.gives_bind logged (Work.gives_pure discovery))⟩

theorem ofTarget_appends (machine : Machine) (config : Config) (context : Option Context)
    (warns : Bool) (target : Path) : (ofTarget machine config context warns target).Appends := by
  refine Work.appends_bind (Work.gives_ofExcept _).appends fun documents => ?_
  refine Work.appends_bind (Work.gives_ofExcept _).appends fun base => ?_
  refine Work.appends_bind (Work.gives_ofExcept _).appends fun extraction => ?_
  obtain ⟨events, gives⟩ := telling_gives machine context warns base extraction ⟨documents, _⟩
  exact gives.appends

theorem ofTarget_result (machine : Machine) (config : Config) (context : Option Context)
    (warns : Bool) (target : Path) :
    (ofTarget machine config context warns target).perform.1 = (do
      let documents ← documentsOf machine.files (filterOf config) target
      let base ← (Document.labelBase machine.files target).mapError .file
      let extraction ← extract machine.files documents
      return ⟨documents,
        number base (Selection.select config.languages config.marker extraction.blocks)⟩) := by
  rw [ofTarget, Work.perform_ofExcept_bind]
  congr
  funext documents
  rw [Work.perform_ofExcept_bind]
  congr
  funext base
  rw [Work.perform_ofExcept_bind]
  congr
  funext extraction
  obtain ⟨events, told⟩ := telling_gives machine context warns base extraction ⟨documents,
    number base (Selection.select config.languages config.marker extraction.blocks)⟩
  exact congrArg Prod.fst (Work.gives_perform told)

theorem ofTarget_found {machine : Machine} {config : Config} {context : Option Context}
    {warns : Bool} {target : Path} {discovery : Discovery}
    (found : (ofTarget machine config context warns target).perform.1 = .ok discovery) :
    ∃ documents base extraction,
      documentsOf machine.files (filterOf config) target = .ok documents ∧
        (Document.labelBase machine.files target).mapError Failure.file = .ok base ∧
        extract machine.files documents = .ok extraction ∧
        discovery =
          ⟨documents, number base (Selection.select config.languages config.marker extraction.blocks)⟩ := by
  rw [ofTarget_result] at found
  obtain ⟨documents, listed, found⟩ := Except.bind_ok.mp found
  obtain ⟨base, based, found⟩ := Except.bind_ok.mp found
  obtain ⟨extraction, extracted, found⟩ := Except.bind_ok.mp found
  cases found
  exact ⟨documents, base, extraction, listed, based, extracted, rfl⟩

theorem number_index (base : Path) (blocks : List Block) (position : Nat) (item : Item)
    (here : (number base blocks)[position]? = some item) : item.index = position := by
  simp only [number, List.getElem?_mapIdx] at here
  obtain ⟨block, -, rfl⟩ := Option.map_eq_some_iff.mp here
  rfl

end Discovery

end FenceCheck

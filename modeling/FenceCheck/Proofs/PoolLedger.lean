import FenceCheck.Proofs.PoolStep
import Mathlib.Data.List.Nodup

/-!
Who has which item in hand, and what was told of each item so far. The ledger of a pool says for
every position in the list of items that it is not yet claimed and nothing was told of it, or that
exactly one worker holds it and its happenings are those of the worker's stage, or that its life is
over: it was finished, or its worker was lost because the item's index has no slot. Every step keeps
the ledger, whatever the indices of the items are.
-/

namespace FenceCheck

namespace Pool

def about (position : Nat) (history : List Happening) : List Happening :=
  history.filter fun happening => happening.position = position

theorem about_append (position : Nat) (history more : List Happening) :
    about position (history ++ more) = about position history ++ about position more :=
  List.filter_append history more

theorem about_self (happening : Happening) : about happening.position [happening] = [happening] := by
  simp [about]

theorem mem_about {position : Nat} {history : List Happening} {happening : Happening} :
    happening ∈ about position history ↔ happening ∈ history ∧ happening.position = position := by
  simp [about]

/-- The claim in hand at a stage, and what was told of it. -/
def Stage.record? : Stage → Option (Claim × List Happening)
  | .claimed claim => some (claim, [])
  | .started claim => some (claim, [.started claim])
  | .executed claim _ | .stored claim _ => some (claim, [.started claim, .executed claim])
  | .idle | .ended | .lost => none

def Stage.outcome? : Stage → Option (Claim × Outcome)
  | .executed claim outcome | .stored claim outcome => some (claim, outcome)
  | .claimed _ | .started _ | .idle | .ended | .lost => none

theorem outcome_record {stage : Stage} {claim : Claim} {outcome : Outcome}
    (inHand : stage.outcome? = some (claim, outcome)) :
    stage.record? = some (claim, [.started claim, .executed claim]) := by
  cases stage <;> cases inHand <;> rfl

/-- A worker has a claim in hand of which this was told. -/
def Holds (stages : List Stage) (worker : Nat) (claim : Claim) (told : List Happening) : Prop :=
  ∃ stage, stages[worker]? = some stage ∧ stage.record? = some (claim, told)

theorem holds_here {stages : List Stage} {worker : Nat} {stage : Stage}
    (here : stages[worker]? = some stage) (claim : Claim) (told : List Happening) :
    Holds stages worker claim told ↔ stage.record? = some (claim, told) := by
  simp [Holds, here]

theorem holds_set {stages : List Stage} {worker : Nat} {before : Stage}
    (here : stages[worker]? = some before) (after : Stage) (other : Nat) (claim : Claim)
    (told : List Happening) :
    Holds (stages.set worker after) other claim told ↔
      (other = worker ∧ after.record? = some (claim, told)) ∨
        (other ≠ worker ∧ Holds stages other claim told) := by
  have bound := (List.getElem?_eq_some_iff.mp here).1
  unfold Holds
  by_cases same : other = worker
  · subst other
    simp [List.getElem?_set_self bound]
  · simp [List.getElem?_set_ne (Ne.symm same), same]

theorem free_before {stages : List Stage} {worker position : Nat} {before after : Stage}
    (here : stages[worker]? = some before)
    (away : ∀ claim told, before.record? = some (claim, told) → claim.position ≠ position)
    (free : ∀ other held told, Holds (stages.set worker after) other held told →
      held.position ≠ position) :
    ∀ other held told, Holds stages other held told → held.position ≠ position := by
  intro other held told old
  by_cases mine : other = worker
  · subst other
    exact away held told ((holds_here here held told).mp old)
  · exact free other held told ((holds_set here after other held told).mpr (Or.inr ⟨mine, old⟩))

section

variable {σ : Type} (crew : Crew σ)

/-- All that happens to an item: it is started, executed and finished with its outcome. -/
def Crew.life (claim : Claim) : List Happening :=
  [.started claim, .executed claim, .finished claim (crew.outcomeOf claim.item.block)]

def Crew.lifeAt (position : Nat) : List Happening :=
  match crew.items[position]? with
  | some item => crew.life ⟨position, item⟩
  | none => []

/-- Nothing was told of any position but the beginning of its life. -/
def Crew.Orderly (history : List Happening) : Prop :=
  ∀ position, about position history <+: crew.lifeAt position

/-- The life of a position is over. A worker that was lost left it without a finish. -/
def Crew.Over (history : List Happening) (claim : Claim) : Prop :=
  about claim.position history = crew.life claim ∨
    (slot? claim.item.index crew.items.length = none ∧
      about claim.position history = [.started claim, .executed claim])

structure Crew.Ledger (cursor : Nat) (stages : List Stage) (history : List Happening) : Prop where
  cursor_bound : cursor ≤ crew.items.length
  held : ∀ worker claim told, Holds stages worker claim told →
    claim.position < cursor ∧ crew.items[claim.position]? = some claim.item ∧
      about claim.position history = told
  apart : ∀ worker other claim otherClaim told otherTold, Holds stages worker claim told →
    Holds stages other otherClaim otherTold → claim.position = otherClaim.position → worker = other
  fresh : ∀ position, cursor ≤ position → about position history = []
  settled : ∀ claim, claim.position < cursor → crew.items[claim.position]? = some claim.item →
    (∀ worker held told, Holds stages worker held told → held.position ≠ claim.position) →
      crew.Over history claim
  outcome : ∀ stage ∈ stages, ∀ claim outcome, stage.outcome? = some (claim, outcome) →
    outcome = crew.outcomeOf claim.item.block
  emptied : .ended ∈ stages → cursor = crew.items.length

variable {crew} {cursor : Nat} {stages : List Stage} {history : List Happening} {worker : Nat}
  {before : Stage} {claim : Claim} {told : List Happening}

theorem ledger_start (workers : Nat) :
    crew.Ledger 0 (List.replicate workers .idle) [] where
  cursor_bound := Nat.zero_le _
  held := by
    rintro worker claim told ⟨stage, here, record⟩
    obtain ⟨-, rfl⟩ := List.mem_replicate.mp (List.mem_of_getElem? here)
    cases record
  apart := by
    rintro worker other claim otherClaim told otherTold ⟨stage, here, record⟩
    obtain ⟨-, rfl⟩ := List.mem_replicate.mp (List.mem_of_getElem? here)
    cases record
  fresh := fun _ _ => rfl
  settled := fun claim below => absurd below (Nat.not_lt_zero _)
  outcome := by
    intro stage member claim outcome holds
    obtain ⟨-, rfl⟩ := List.mem_replicate.mp member
    cases holds
  emptied := fun member => nomatch (List.mem_replicate.mp member).2

theorem Crew.Ledger.orderly (ledger : crew.Ledger cursor stages history) : crew.Orderly history := by
  intro position
  by_cases claimed : position < cursor
  · have bound : position < crew.items.length := Nat.lt_of_lt_of_le claimed ledger.cursor_bound
    have item := List.getElem?_eq_getElem bound
    have life : crew.lifeAt position = crew.life ⟨position, crew.items[position]⟩ := by
      simp [Crew.lifeAt, item]
    rw [life]
    -- A claimed position is over, or one worker holds it; what was told is a beginning either way.
    by_cases free : ∀ worker held told, Holds stages worker held told → held.position ≠ position
    · rcases ledger.settled ⟨position, crew.items[position]⟩ claimed item free with whole | ⟨-, cut⟩
      · exact whole ▸ List.prefix_refl _
      · exact cut ▸ ⟨[.finished _ _], rfl⟩
    · push Not at free
      obtain ⟨worker, held, told, holds, rfl⟩ := free
      obtain ⟨-, same, known⟩ := ledger.held worker held told holds
      obtain ⟨stage, -, record⟩ := holds
      have claim : held = ⟨held.position, crew.items[held.position]⟩ := by
        rw [item] at same
        cases held
        simp only [Option.some.injEq] at same
        simp [same]
      rw [known, ← claim]
      cases stage <;> cases record <;> simp [Crew.life]
  · rw [ledger.fresh position (Nat.le_of_not_lt claimed)]
    exact List.nil_prefix

theorem orderly_next {happening : Happening} (orderly : crew.Orderly (history ++ [happening])) :
    ∃ claim, crew.items[claim.position]? = some claim.item ∧
      ((happening = .started claim ∧ about claim.position history = []) ∨
        (happening = .executed claim ∧ about claim.position history = [.started claim]) ∨
        (happening = .finished claim (crew.outcomeOf claim.item.block) ∧
          about claim.position history = [.started claim, .executed claim])) := by
  have life := orderly happening.position
  rw [about_append, about_self] at life
  cases here : crew.items[happening.position]? with
  | none => simp [Crew.lifeAt, here] at life
  | some item =>
      refine ⟨⟨happening.position, item⟩, here, ?_⟩
      obtain ⟨rest, whole⟩ := life
      simp only [Crew.lifeAt, here, Crew.life, List.append_assoc] at whole
      generalize about happening.position history = told at whole ⊢
      -- A life has three happenings, so at most two were told before this one.
      rcases told with _ | ⟨first, _ | ⟨second, _ | ⟨third, more⟩⟩⟩
      all_goals simp at whole
      · exact Or.inl ⟨whole.1, rfl⟩
      · exact Or.inr (Or.inl ⟨whole.2.1, by rw [whole.1]⟩)
      · exact Or.inr (Or.inr ⟨whole.2.2.1, by rw [whole.1, whole.2.1]⟩)

theorem orderly_before {more : List Happening} (orderly : crew.Orderly (history ++ more)) :
    crew.Orderly history := fun position =>
  (about_append position history more ▸ List.prefix_append _ _).trans (orderly position)

theorem orderly_nodup (orderly : crew.Orderly history) : history.Nodup := by
  apply List.nodup_iff_count_le_one.mpr
  intro happening
  have life : (crew.lifeAt happening.position).Nodup := by
    unfold Crew.lifeAt
    split <;> simp [Crew.life]
  have own : (about happening.position history).count happening = history.count happening :=
    List.count_filter (by simp)
  rw [← own]
  exact List.nodup_iff_count_le_one.mp (life.sublist (orderly happening.position).sublist) happening

theorem orderly_mem (orderly : crew.Orderly history) {happening : Happening}
    (member : happening ∈ history) :
    crew.items[happening.claim.position]? = some happening.claim.item ∧
      happening ∈ crew.life happening.claim := by
  have own := (orderly happening.position).subset (mem_about.mpr ⟨member, rfl⟩)
  cases here : crew.items[happening.position]? with
  | none => simp [Crew.lifeAt, here] at own
  | some item =>
      simp only [Crew.lifeAt, here] at own
      have same : happening.claim = ⟨happening.position, item⟩ := by
        simp only [Crew.life, List.mem_cons, List.not_mem_nil, or_false] at own
        rcases own with told | told | told <;> exact congrArg Happening.claim told
      rw [same]
      exact ⟨here, own⟩

-- The two facts of a ledger that speak of stages alone: a stage that is new has to bear them itself.
theorem outcome_set {after : Stage} (ledger : crew.Ledger cursor stages history)
    (right : ∀ claim outcome, after.outcome? = some (claim, outcome) →
      outcome = crew.outcomeOf claim.item.block) :
    ∀ stage ∈ stages.set worker after, ∀ claim outcome, stage.outcome? = some (claim, outcome) →
      outcome = crew.outcomeOf claim.item.block := by
  intro stage member claim outcome inHand
  rcases List.mem_or_eq_of_mem_set member with old | rfl
  · exact ledger.outcome stage old claim outcome inHand
  · exact right claim outcome inHand

theorem emptied_set {after : Stage} (ledger : crew.Ledger cursor stages history)
    (working : after ≠ .ended) (member : .ended ∈ stages.set worker after) :
    cursor = crew.items.length := by
  rcases List.mem_or_eq_of_mem_set member with old | new
  · exact ledger.emptied old
  · exact absurd new.symm working

theorem ledger_claim {item : Item} (ledger : crew.Ledger cursor stages history)
    (idle : stages[worker]? = some .idle) (left : crew.items[cursor]? = some item) :
    crew.Ledger (cursor + 1) (stages.set worker (.claimed ⟨cursor, item⟩)) history where
  cursor_bound := (List.getElem?_eq_some_iff.mp left).1
  held := by
    intro other claim told holds
    rcases (holds_set idle _ other claim told).mp holds with ⟨rfl, record⟩ | ⟨-, old⟩
    · cases record
      exact ⟨Nat.lt_succ_self cursor, left, ledger.fresh cursor (Nat.le_refl cursor)⟩
    · obtain ⟨below, known⟩ := ledger.held other claim told old
      exact ⟨Nat.lt_succ_of_lt below, known⟩
  apart := by
    intro one other claim otherClaim told otherTold holds otherHolds same
    -- The new claim stands at the cursor, and all others stand below it.
    rcases (holds_set idle _ one claim told).mp holds with ⟨rfl, record⟩ | ⟨-, old⟩ <;>
      rcases (holds_set idle _ other otherClaim otherTold).mp otherHolds with
        ⟨rfl, otherRecord⟩ | ⟨-, otherOld⟩
    · rfl
    · cases record
      have below := (ledger.held other otherClaim otherTold otherOld).1
      exact absurd same (Nat.ne_of_gt below)
    · cases otherRecord
      have below := (ledger.held one claim told old).1
      exact absurd same (Nat.ne_of_lt below)
    · exact ledger.apart one other claim otherClaim told otherTold old otherOld same
  fresh := fun position above => ledger.fresh position (Nat.le_of_succ_le above)
  settled := by
    intro claim below known free
    have here : Holds (stages.set worker (.claimed ⟨cursor, item⟩)) worker ⟨cursor, item⟩ [] :=
      (holds_set idle _ _ _ _).mpr (Or.inl ⟨rfl, rfl⟩)
    have notHere := free worker _ _ here
    apply ledger.settled claim (by simp only at notHere; omega) known
    refine free_before idle (fun held told record => ?_) free
    cases record
  outcome := outcome_set ledger (by simp [Stage.outcome?])
  emptied := by
    intro member
    have last := emptied_set ledger (by simp) member
    have bound := (List.getElem?_eq_some_iff.mp left).1
    omega

theorem ledger_leave (ledger : crew.Ledger cursor stages history)
    (idle : stages[worker]? = some .idle) (left : crew.items[cursor]? = none) :
    crew.Ledger cursor (stages.set worker .ended) history := by
  have same (other : Nat) (claim : Claim) (told : List Happening) :
      Holds (stages.set worker .ended) other claim told ↔ Holds stages other claim told := by
    rw [holds_set idle]
    constructor
    · rintro (⟨-, record⟩ | ⟨-, old⟩)
      · cases record
      · exact old
    · intro old
      refine Or.inr ⟨?_, old⟩
      rintro rfl
      cases (holds_here idle claim told).mp old
  have last : crew.items.length ≤ cursor := List.getElem?_eq_none_iff.mp left
  constructor
  case cursor_bound => exact ledger.cursor_bound
  case held => simpa only [same] using ledger.held
  case apart => simpa only [same] using ledger.apart
  case fresh => exact ledger.fresh
  case settled => simpa only [same] using ledger.settled
  case outcome => exact outcome_set ledger (by simp [Stage.outcome?])
  case emptied => exact fun _ => Nat.le_antisymm ledger.cursor_bound last

theorem about_told {more : List Happening} (known : about claim.position history = told)
    (own : ∀ happening ∈ more, happening.position = claim.position) (position : Nat) :
    about position (history ++ more) =
      if position = claim.position then told ++ more else about position history := by
  rw [about_append]
  split
  case isTrue same =>
      have all : about position more = more :=
        List.filter_eq_self.mpr fun happening member => by simp [own happening member, same]
      rw [all, same, known]
  case isFalse other =>
      have none : about position more = [] :=
        List.filter_eq_nil_iff.mpr fun happening member => by
          simp [own happening member, Ne.symm other]
      rw [none, List.append_nil]

theorem ledger_carry (after : Stage) (more : List Happening) (ledger : crew.Ledger cursor stages history)
    (here : stages[worker]? = some before) (record : before.record? = some (claim, told))
    (next : after.record? = some (claim, told ++ more))
    (own : ∀ happening ∈ more, happening.position = claim.position)
    (right : ∀ outcome, after.outcome? = some (claim, outcome) →
      outcome = crew.outcomeOf claim.item.block) :
    crew.Ledger cursor (stages.set worker after) (history ++ more) := by
  have holds := (holds_here here claim told).mpr record
  obtain ⟨below, item, known⟩ := ledger.held worker claim told holds
  have after_about := about_told known own
  -- The claims in hand are the old ones; only what was told of this one has grown.
  have kept (other : Nat) (held : Claim) (now : List Happening)
      (later : Holds (stages.set worker after) other held now) :
      ∃ old, Holds stages other held old := by
    rcases (holds_set here after other held now).mp later with ⟨rfl, fresh⟩ | ⟨-, old⟩
    · rw [next] at fresh
      cases fresh
      exact ⟨told, holds⟩
    · exact ⟨now, old⟩
  constructor
  case cursor_bound => exact ledger.cursor_bound
  case held =>
      intro other held now later
      rcases (holds_set here after other held now).mp later with ⟨rfl, fresh⟩ | ⟨different, old⟩
      · rw [next] at fresh
        cases fresh
        exact ⟨below, item, by rw [after_about, if_pos rfl]⟩
      · obtain ⟨otherBelow, otherItem, otherKnown⟩ := ledger.held other held now old
        have away : held.position ≠ claim.position := fun same =>
          different (ledger.apart other worker held claim now told old holds same)
        exact ⟨otherBelow, otherItem, by rw [after_about, if_neg away, otherKnown]⟩
  case apart =>
      intro one other held otherHeld now otherNow later otherLater same
      obtain ⟨_, old⟩ := kept one held now later
      obtain ⟨_, otherOld⟩ := kept other otherHeld otherNow otherLater
      exact ledger.apart one other held otherHeld _ _ old otherOld same
  case fresh =>
      intro position above
      rw [after_about, if_neg (by omega), ledger.fresh position above]
  case settled =>
      intro gone goneBelow goneItem free
      have away : gone.position ≠ claim.position := fun same =>
        free worker claim _ ((holds_set here after _ _ _).mpr (Or.inl ⟨rfl, next⟩)) same.symm
      unfold Crew.Over
      rw [after_about, if_neg away]
      apply ledger.settled gone goneBelow goneItem
      refine free_before here (fun held now old => ?_) free
      rw [record] at old
      cases old
      exact Ne.symm away
  case outcome =>
      refine outcome_set ledger fun held outcome inHand => ?_
      have record := (outcome_record inHand).symm.trans next
      have same : held = claim := (Prod.mk.inj (Option.some.inj record)).1
      subst held
      exact right outcome inHand
  case emptied =>
      refine emptied_set ledger ?_
      rintro rfl
      cases next

theorem ledger_release (after : Stage) (more : List Happening) (ledger : crew.Ledger cursor stages history)
    (here : stages[worker]? = some before) (record : before.record? = some (claim, told))
    (next : after.record? = none) (working : after ≠ .ended)
    (own : ∀ happening ∈ more, happening.position = claim.position)
    (finished : crew.Over (history ++ more) claim) :
    crew.Ledger cursor (stages.set worker after) (history ++ more) := by
  have holds := (holds_here here claim told).mpr record
  obtain ⟨below, item, known⟩ := ledger.held worker claim told holds
  have after_about := about_told known own
  -- This worker has nothing in hand any more, so every claim in hand is that of another one.
  have kept (other : Nat) (held : Claim) (now : List Happening)
      (later : Holds (stages.set worker after) other held now) :
      other ≠ worker ∧ Holds stages other held now := by
    rcases (holds_set here after other held now).mp later with ⟨-, fresh⟩ | old
    · rw [next] at fresh
      cases fresh
    · exact old
  have away (other : Nat) (held : Claim) (now : List Happening) (different : other ≠ worker)
      (old : Holds stages other held now) : held.position ≠ claim.position := fun same =>
    different (ledger.apart other worker held claim now told old holds same)
  constructor
  case cursor_bound => exact ledger.cursor_bound
  case held =>
      intro other held now later
      obtain ⟨different, old⟩ := kept other held now later
      obtain ⟨otherBelow, otherItem, otherKnown⟩ := ledger.held other held now old
      refine ⟨otherBelow, otherItem, ?_⟩
      rw [after_about, if_neg (away other held now different old), otherKnown]
  case apart =>
      intro one other held otherHeld now otherNow later otherLater same
      exact ledger.apart one other held otherHeld now otherNow (kept one held now later).2
        (kept other otherHeld otherNow otherLater).2 same
  case fresh =>
      intro position above
      rw [after_about, if_neg (by omega), ledger.fresh position above]
  case settled =>
      intro gone goneBelow goneItem free
      by_cases same : gone.position = claim.position
      · have equal : gone = claim := by
          rw [same, item] at goneItem
          cases gone
          cases claim
          simp_all
        exact equal ▸ finished
      · unfold Crew.Over
        rw [after_about, if_neg same]
        apply ledger.settled gone goneBelow goneItem
        refine free_before here (fun held now old => ?_) free
        rw [record] at old
        cases old
        exact Ne.symm same
  case outcome =>
      refine outcome_set ledger fun held outcome inHand => ?_
      rw [outcome_record inHand] at next
      cases next
  case emptied => exact emptied_set ledger working

end

end Pool

end FenceCheck

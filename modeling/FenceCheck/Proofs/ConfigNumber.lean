import FenceCheck.Proofs.ConfigLayer
import FenceCheck.Proofs.Fallible
import FenceCheck.Proofs.FloatInteger
import FenceCheck.Proofs.PoolCompletion

/-!
The numbers of a configuration. Whatever layers are accepted, the limits of time and the number of
workers stand for whole numbers above zero, but a layer that gives a floating-point number leaves one
there, and a pool cannot count its workers with that.
-/

namespace FenceCheck

namespace Config

abbrev SourcedLayer := List (Datum × Datum) × Text

/-- The configuration after some layers, all of which have to be accepted. -/
def mergeAll (config : Config) (layers : List SourcedLayer) : Except ConfigError Config :=
  layers.foldlM (fun config layer => config.merge layer.1 layer.2) config

/-- What the last layer that mentions a field gives it. -/
def lastGiven (field : Field) : List SourcedLayer → Option Datum
  | [] => none
  | layer :: rest => (lastGiven field rest).or (Datum.lookupName layer.1 field.name)

theorem get_mergeAll {layers : List SourcedLayer} {config merged : Config}
    (accepted : config.mergeAll layers = .ok merged) (field : Field) :
    match lastGiven field layers with
    | some value => field.schema.Fits value ∧ merged.get field = field.taken value
    | none => merged.get field = config.get field := by
  induction layers generalizing config with
  | nil =>
      cases accepted
      rfl
  | cons layer rest ih =>
      rw [mergeAll, List.foldlM_cons] at accepted
      obtain ⟨next, first, accepted⟩ := Except.bind_ok.mp accepted
      have here := get_merge first field
      have later := ih accepted
      rw [lastGiven]
      -- A later layer that mentions the field decides; only without one this layer is asked.
      cases given : lastGiven field rest with
      | some value =>
          rw [given] at later
          exact later
      | none =>
          rw [given] at later
          rw [Option.none_or]
          cases found : Datum.lookupName layer.1 field.name with
          | none =>
              rw [found] at here
              exact later.trans here
          | some value =>
              rw [found] at here
              exact ⟨(merge_ok.mp first).1.fits field value found, later.trans here⟩

def GivenReal (layers : List SourcedLayer) (field : Field) : Prop :=
  ∃ value x, lastGiven field layers = some value ∧ value.opened = .float x

theorem fits_positive {value : Datum} :
    Contract.positive.Fits value ↔
      ∃ n, 1 ≤ n ∧ (value.opened = .int n ∨ ∃ x, value.opened = .float x ∧ x.toInt? = some n) := by
  rw [Contract.positive, Schema.fits_cons, Schema.fits_cons, Demand.met_kind, Demand.met_minimum,
    Kind.admits_integer]
  constructor
  · rintro ⟨⟨n, whole⟩ | ⟨x, real, some⟩, reached, -⟩
    · refine ⟨n, ?_, .inl whole⟩
      simpa [whole, Demand.isBelow] using reached
    · obtain ⟨n, same⟩ := Option.isSome_iff_exists.mp some
      refine ⟨n, ?_, .inr ⟨x, real, same⟩⟩
      simpa [real, Demand.isBelow, Binary64.ltInt_of_toInt same] using reached
  · rintro ⟨n, reached, whole | ⟨x, real, same⟩⟩
    · refine ⟨.inl ⟨n, whole⟩, ?_, Schema.fits_nil⟩
      simpa [whole, Demand.isBelow] using reached
    · refine ⟨.inr ⟨x, real, ?_⟩, ?_, Schema.fits_nil⟩
      · rw [same]
        rfl
      · simpa [real, Demand.isBelow, Binary64.ltInt_of_toInt same] using reached

theorem amountValue_int {amount : Amount} {n : Int} :
    amountValue amount = .int n ↔ amount = .whole n := by
  cases amount <;> simp [amountValue]

theorem amountValue_float {amount : Amount} {x : Binary64} :
    amountValue amount = .float x ↔ amount = .real x := by
  cases amount <;> simp [amountValue]

/-- An amount in a field stands for a whole number, and it is a floating-point one only if it was given
as such. -/
structure Counts (layers : List SourcedLayer) (field : Field) (amount : Amount) (n : Int) : Prop where
  stands : amount.Stands n
  real : (∃ x, amount = .real x) ↔ GivenReal layers field

section

variable {layers : List SourcedLayer} {field : Field} {amount : Amount}

theorem counts_default (unset : lastGiven field layers = none) (n : Int) :
    Counts layers field (.whole n) n := by
  refine ⟨.inl rfl, iff_of_false (by simp) ?_⟩
  rintro ⟨value, x, given, -⟩
  rw [unset] at given
  cases given

theorem counts_given {value : Datum} (given : lastGiven field layers = some value)
    (fits : Contract.positive.Fits value) (taken : amountValue amount = field.taken value) :
    ∃ n, 1 ≤ n ∧ Counts layers field amount n := by
  obtain ⟨n, reached, opened | ⟨x, opened, whole⟩⟩ := fits_positive.mp fits
  · have kept : amount = .whole n := by
      rw [Field.taken, opened] at taken
      exact amountValue_int.mp taken
    subst kept
    refine ⟨n, reached, .inl rfl, iff_of_false (by simp) ?_⟩
    rintro ⟨other, x, found, real⟩
    cases given.symm.trans found
    rw [opened] at real
    cases real
  · have kept : amount = .real x := by
      rw [Field.taken, opened] at taken
      exact amountValue_float.mp taken
    subst kept
    exact ⟨n, reached, .inr ⟨x, rfl, whole⟩, iff_of_true ⟨x, rfl⟩ ⟨value, x, given, opened⟩⟩

theorem number_mergeAll (field : Field) (before : Amount) {config merged : Config}
    (accepted : config.mergeAll layers = .ok merged) (positive : field.schema = Contract.positive)
    (first : config.get field = amountValue before) (last : merged.get field = amountValue amount) :
    (lastGiven field layers = none ∧ amount = before) ∨
      (lastGiven field layers ≠ none ∧ ∃ n, 1 ≤ n ∧ Counts layers field amount n) := by
  have result := get_mergeAll accepted field
  cases given : lastGiven field layers with
  | none =>
      rw [given, first, last] at result
      exact .inl ⟨rfl, amountValue_inj result⟩
  | some value =>
      rw [given, last, positive] at result
      exact .inr ⟨Option.some_ne_none value, counts_given given result.1 result.2⟩

end

theorem workers_counts {layers : List SourcedLayer} {config : Config} {n : Int}
    (counts : Counts layers .concurrency config.concurrency n) (natural : 0 ≤ n)
    (unset : n = 0 → lastGiven .concurrency layers = none) (processors : Option Nat) :
    ∃ workers, 1 ≤ workers ∧ Counts layers .concurrency (config.workers processors) workers := by
  unfold workers
  rw [counts.stands.isPositive]
  by_cases positive : 0 < n
  · rw [if_pos (decide_eq_true positive)]
    exact ⟨n, positive, counts⟩
  · rw [if_neg (by simpa using positive)]
    have none := unset (by omega)
    split
    case h_1 k => exact ⟨k + 1, by omega, counts_default none (k + 1)⟩
    case h_2 => exact ⟨1, Int.le_refl 1, counts_default none 1⟩

end Config

namespace Pool

variable {σ : Type} {concurrency : Amount} {n : Int}

theorem size_kept {count : Nat} (stands : concurrency.Stands n) (few : n ≤ count) :
    size concurrency count = concurrency := by
  have notAbove : ¬ concurrency.isAbove count = true := by
    rw [stands.isAbove, decide_eq_true_eq]
    omega
  rw [size, if_neg notAbove]

theorem size_counted {count : Nat} (stands : concurrency.Stands n) (positive : 1 ≤ n)
    (countable : (∃ x, concurrency = .real x) → (count : Int) < n) :
    size concurrency count = .whole (crewSize n count) := by
  rcases stands with rfl | ⟨x, rfl, whole⟩
  · exact size_whole positive count
  · have fewer := countable ⟨x, rfl⟩
    have above : (Amount.real x).isAbove count = true := by
      rw [Amount.Stands.isAbove (.inr ⟨x, rfl, whole⟩), decide_eq_true_eq]
      exact fewer
    rw [size, if_pos above, crewSize, Int.min_eq_right (by omega), Int.toNat_natCast]

/-- A pool that is asked for a number of workers above zero has one at least for any item. It starts
them unless the number is a floating-point one that is kept because there are as many items. -/
theorem runAlong_stands (crew : Crew σ) (stands : concurrency.Stands n) (positive : 1 ≤ n) (schedule : List Nat)
    (surroundings : σ) :
    (∀ asked, (crew.runAlong schedule concurrency surroundings).2 ≠ .error (.fewWorkers asked)) ∧
      ((crew.runAlong schedule concurrency surroundings).2 = .error .brokenWorkers ↔
        (∃ x, concurrency = .real x) ∧ n ≤ crew.items.length) := by
  have enough : ¬ concurrency.isBelow 1 = true := by
    rw [stands.isBelow, decide_eq_true_eq]
    omega
  unfold Crew.runAlong
  rw [if_neg enough]
  by_cases broken : (∃ x, concurrency = .real x) ∧ n ≤ crew.items.length
  · obtain ⟨⟨x, rfl⟩, few⟩ := broken
    simp only [size_kept stands few]
    exact ⟨by simp, iff_of_true trivial ⟨⟨x, rfl⟩, few⟩⟩
  · have counted : size concurrency crew.items.length = .whole (crewSize n crew.items.length) := by
      refine size_counted stands positive fun real => ?_
      by_contra few
      exact broken ⟨real, by omega⟩
    simp only [counted]
    -- A pool that has begun fails only for slots that nobody filled.
    split
    case h_1 failure collected =>
        rw [State.collect] at collected
        split at collected
        · cases collected
        · cases collected
          exact ⟨by simp, iff_of_false (by simp) broken⟩
    case h_2 => exact ⟨by simp, iff_of_false (by simp) broken⟩

end Pool

namespace Config

/-- After any layers that are accepted the limits of time and the number of workers stand for whole
numbers: the limits are above zero, and the number of workers is zero only if no layer gives one. They
are floating-point numbers exactly where the last layer that gives them gives one, and only such a
number of workers can keep a pool from starting them. -/
theorem accepted_numbers_count {layers : List SourcedLayer} {config : Config}
    (accepted : defaults.mergeAll layers = .ok config) :
    (∃ n, 1 ≤ n ∧ Counts layers .timeout config.timeout n) ∧
      (∃ n, 1 ≤ n ∧ Counts layers .bundleTimeout config.bundleTimeout n) ∧
      (∃ n, 0 ≤ n ∧ (n = 0 ↔ lastGiven .concurrency layers = none) ∧
        Counts layers .concurrency config.concurrency n) ∧
      ∀ processors, ∃ n, 1 ≤ n ∧ Counts layers .concurrency (config.workers processors) n ∧
        ∀ (σ : Type) (crew : Pool.Crew σ) (schedule : List Nat) (surroundings : σ),
          let result := (crew.runAlong schedule (config.workers processors) surroundings).2
          let broken := GivenReal layers .concurrency ∧ n ≤ crew.items.length
          (∀ asked, result ≠ .error (.fewWorkers asked)) ∧
          (result = .error .brokenWorkers ↔ broken) ∧
          (¬ broken → Pool.size (config.workers processors) crew.items.length =
              .whole (Pool.crewSize n crew.items.length)) ∧
          (0 < Pool.crewSize n crew.items.length ∨ crew.items.length = 0) := by
  have timeout := number_mergeAll .timeout (.whole 5000) accepted rfl rfl rfl
  have bundleTimeout := number_mergeAll .bundleTimeout (.whole 30000) accepted rfl rfl rfl
  have concurrency := number_mergeAll .concurrency (.whole 0) accepted rfl rfl rfl
  refine ⟨?_, ?_, ?_⟩
  · rcases timeout with ⟨unset, same⟩ | ⟨-, set⟩
    · rw [same]
      exact ⟨5000, by decide, counts_default unset 5000⟩
    · exact set
  · rcases bundleTimeout with ⟨unset, same⟩ | ⟨-, set⟩
    · rw [same]
      exact ⟨30000, by decide, counts_default unset 30000⟩
    · exact set
  have counted : ∃ n, 0 ≤ n ∧ (n = 0 ↔ lastGiven .concurrency layers = none) ∧
      Counts layers .concurrency config.concurrency n := by
    rcases concurrency with ⟨unset, same⟩ | ⟨set, n, positive, counts⟩
    · rw [same]
      exact ⟨0, Int.le_refl 0, iff_of_true rfl unset, counts_default unset 0⟩
    · exact ⟨n, by omega, iff_of_false (by omega) set, counts⟩
  -- Zero workers stand for as many as there are processors, so there is always one.
  refine ⟨counted, fun processors => ?_⟩
  obtain ⟨asked, natural, unset, counts⟩ := counted
  obtain ⟨n, positive, effective⟩ := workers_counts counts natural unset.mp processors
  refine ⟨n, positive, effective, ?_⟩
  intro σ crew schedule surroundings result broken
  obtain ⟨enough, breaks⟩ :=
    Pool.runAlong_stands crew effective.stands positive schedule surroundings
  rw [effective.real] at breaks
  refine ⟨enough, breaks, fun whole => ?_, Pool.crewSize_manned positive _⟩
  refine Pool.size_counted effective.stands positive fun real => ?_
  by_contra few
  exact whole ⟨effective.real.mp real, by omega⟩

theorem accepted_single {field : Field} {value : Datum} (fits : field.schema.Fits value) :
    Accepted [(.text field.name, value)] := by
  refine ⟨?_, ?_⟩
  · intro entry member
    cases List.mem_singleton.mp member
    exact ⟨field, rfl⟩
  · intro other found same
    simp only [Datum.lookupName, Field.name_inj, Option.ite_none_right_eq_some,
      Option.some.injEq] at same
    obtain ⟨rfl, rfl⟩ := same
    exact fits

def realTwo : Binary64 := ⟨0x4000000000000000⟩

theorem realTwo_whole : realTwo.toInt? = some 2 := by decide +kernel

def mixedLayers : List SourcedLayer :=
  [([(.text Field.timeout.name, .int 2000)], "first"),
   ([(.text Field.concurrency.name, .float realTwo)], "second")]

def mixedConfig : Config :=
  { defaults with timeout := 2000, concurrency := .real realTwo, source := "second" }

theorem mixedLayers_accepted : defaults.mergeAll mixedLayers = .ok mixedConfig := by
  have time : Contract.positive.Fits (.int 2000) := fits_positive.mpr ⟨2000, by decide, .inl rfl⟩
  have workers : Contract.positive.Fits (.float realTwo) :=
    fits_positive.mpr ⟨2, by decide, .inr ⟨realTwo, rfl, realTwo_whole⟩⟩
  have first : defaults.merge [(.text Field.timeout.name, .int 2000)] "first" =
      .ok { defaults with timeout := 2000, source := "first" } := by
    refine merge_ok.mpr ⟨accepted_single time, ?_⟩
    rw [List.foldr_cons, setEntry_named]
    rfl
  have second : merge { defaults with timeout := 2000, source := "first" }
      [(.text Field.concurrency.name, .float realTwo)] "second" = .ok mixedConfig := by
    refine merge_ok.mpr ⟨accepted_single workers, ?_⟩
    rw [List.foldr_cons, setEntry_named]
    rfl
  simp only [mergeAll, mixedLayers, List.foldlM_cons, List.foldlM_nil, first, bind, Except.bind, second]
  rfl

theorem accepted_numbers_count_mixed :
    defaults.mergeAll mixedLayers = .ok mixedConfig ∧
      (∃ n, 1 ≤ n ∧ Counts mixedLayers .timeout mixedConfig.timeout n) ∧
      ∃ n, 0 ≤ n ∧ (n = 0 ↔ lastGiven .concurrency mixedLayers = none) ∧
        Counts mixedLayers .concurrency mixedConfig.concurrency n := by
  obtain ⟨timeout, -, concurrency, -⟩ := accepted_numbers_count mixedLayers_accepted
  exact ⟨mixedLayers_accepted, timeout, concurrency⟩

theorem accepted_number_stays_real :
    defaults.mergeAll mixedLayers = .ok mixedConfig ∧
      mixedConfig.workers (some 4) = .real realTwo ∧
      (Pool.twoBlocks.runAlong [] (mixedConfig.workers (some 4)) ()).2 = .error .brokenWorkers := by
  have kept : mixedConfig.workers (some 4) = .real realTwo := by decide +kernel
  refine ⟨mixedLayers_accepted, kept, ?_⟩
  rw [kept]
  exact (Pool.runAlong_stands Pool.twoBlocks (.inr ⟨realTwo, rfl, realTwo_whole⟩) (by decide) [] ()).2.mpr
    ⟨⟨realTwo, rfl⟩, by decide⟩

end Config

end FenceCheck

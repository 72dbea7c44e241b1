import FenceCheck.Proofs.ConfigFailure

/-!
Layers put together. Two layers merged one after the other do what one layer does that has the entries
of both, where the later one wins. So layers without a common key can change places, and a layer that is
merged again changes nothing. A layer that is refused is reported under the name of its source, unless the
report would have to show a number that has no text.
-/

namespace FenceCheck

namespace Datum

variable {key value : Datum} {name : Text} {entries : List (Datum × Datum)}

theorem same_text {t : Text} : key.same (.text t) = true ↔ key = .text t := by
  cases key <;> simp [same, quantity?]

theorem text_same {t : Text} : (text t).same key = true ↔ key = .text t := by
  cases key <;> simp [same, quantity?, eq_comm]

theorem lookupName_cons :
    lookupName ((key, value) :: entries) name =
      if key.same (.text name) then some value else lookupName entries name := by
  cases key <;> simp [lookupName, same, quantity?]

theorem lookupName_none (absent : ∀ entry ∈ entries, entry.1 ≠ .text name) :
    lookupName entries name = none := by
  refine Option.eq_none_iff_forall_ne_some.mpr fun value found => ?_
  exact absent _ (lookupName_mem found) rfl

theorem lookupName_putEntry (entries : List (Datum × Datum)) (key value : Datum) :
    lookupName (putEntry entries key value) name =
      if key.same (.text name) then some value else lookupName entries name := by
  induction entries with
  | nil => rw [putEntry, lookupName_cons]
  | cons entry rest ih =>
      obtain ⟨first, old⟩ := entry
      rw [putEntry]
      split
      case isTrue same =>
          -- Keys that are the same are texts together.
          have together : first.same (.text name) = key.same (.text name) := by
            rw [Bool.eq_iff_iff, same_text, same_text]
            constructor
            · rintro rfl
              exact text_same.mp same
            · rintro rfl
              exact same_text.mp same
          rw [lookupName_cons, lookupName_cons, together]
          split <;> rfl
      case isFalse other =>
          rw [lookupName_cons, lookupName_cons, ih]
          by_cases here : first = .text name
          · have apart : ¬ key.same (.text name) = true := by
              rw [same_text]
              rintro rfl
              exact other (same_text.mpr here)
            rw [if_neg apart, if_neg apart]
          · rw [if_neg (mt same_text.mp here), if_neg (mt same_text.mp here)]

theorem putEntry_mem {entry : Datum × Datum} (member : entry ∈ putEntry entries key value) :
    entry.1 = key ∨ ∃ other ∈ entries, entry.1 = other.1 := by
  induction entries with
  | nil => exact Or.inl (List.mem_singleton.mp member ▸ rfl)
  | cons first rest ih =>
      rw [putEntry] at member
      split at member
      case isTrue same =>
          rcases List.mem_cons.mp member with rfl | later
          · exact Or.inr ⟨first, List.mem_cons_self, rfl⟩
          · exact Or.inr ⟨entry, List.mem_cons_of_mem _ later, rfl⟩
      case isFalse other =>
          rcases List.mem_cons.mp member with rfl | later
          · exact Or.inr ⟨entry, List.mem_cons_self, rfl⟩
          · refine (ih later).imp_right ?_
            rintro ⟨other, old, kept⟩
            exact ⟨other, List.mem_cons_of_mem _ old, kept⟩

end Datum

namespace Config

variable {config between last : Config} {lower upper layer : Layer} {source : Text} {field : Field}

def Distinct (layer : Layer) : Prop :=
  layer.Pairwise fun entry other => entry.1.same other.1 = false

def Disjoint (lower upper : Layer) : Prop :=
  ∀ entry ∈ lower, ∀ other ∈ upper, entry.1.same other.1 = false

instance (layer : Layer) : Decidable (Distinct layer) :=
  inferInstanceAs (Decidable (layer.Pairwise fun entry other => entry.1.same other.1 = false))

instance (lower upper : Layer) : Decidable (Disjoint lower upper) :=
  inferInstanceAs (Decidable (∀ entry ∈ lower, ∀ other ∈ upper, entry.1.same other.1 = false))

/-- The mapping with the entries of another one put into it. -/
def overlaid (lower upper : Layer) : Layer :=
  upper.foldl (fun entries entry => Datum.putEntry entries entry.1 entry.2) lower

theorem lookup_overlaid (distinct : Distinct upper) (name : Text) :
    Datum.lookupName (overlaid lower upper) name =
      (Datum.lookupName upper name).or (Datum.lookupName lower name) := by
  induction upper generalizing lower with
  | nil => rfl
  | cons entry rest ih =>
      obtain ⟨apart, later⟩ := List.pairwise_cons.mp distinct
      change Datum.lookupName (overlaid (Datum.putEntry lower entry.1 entry.2) rest) name = _
      rw [ih later, Datum.lookupName_putEntry, Datum.lookupName_cons]
      split
      case isTrue here =>
          -- The key does not come again, so what was put under it stays.
          have alone : Datum.lookupName rest name = none := by
            refine Datum.lookupName_none fun other member same => ?_
            have differ := apart other member
            rw [Datum.same_text.mp here, Datum.text_same.mpr same] at differ
            cases differ
          rw [alone, Option.none_or, Option.some_or]
      case isFalse => rfl

theorem key_overlaid {entry : Datum × Datum} (member : entry ∈ overlaid lower upper) :
    ∃ other ∈ lower ++ upper, entry.1 = other.1 := by
  induction upper generalizing lower with
  | nil => exact ⟨entry, List.mem_append_left _ member, rfl⟩
  | cons put rest ih =>
      obtain ⟨other, old, same⟩ := ih member
      rcases List.mem_append.mp old with inside | later
      · rcases Datum.putEntry_mem inside with key | ⟨former, lying, kept⟩
        · exact ⟨put, List.mem_append_right _ List.mem_cons_self, same.trans key⟩
        · exact ⟨former, List.mem_append_left _ lying, same.trans kept⟩
      · exact ⟨other, List.mem_append_right _ (List.mem_cons_of_mem _ later), same⟩

theorem accepted_overlaid (distinct : Distinct upper) (below : Accepted lower) (above : Accepted upper) :
    Accepted (overlaid lower upper) where
  named entry member := by
    obtain ⟨other, among, same⟩ := key_overlaid member
    rw [same]
    exact (List.mem_append.mp among).elim (below.named other) (above.named other)
  fits field value found := by
    rw [lookup_overlaid distinct] at found
    rcases Option.or_eq_some_iff.mp found with here | ⟨-, there⟩
    · exact above.fits field value here
    · exact below.fits field value there

/-! A configuration is known by its fields and its source. -/

theorem ext_get {config other : Config} (fields : ∀ field, config.get field = other.get field)
    (source : config.source = other.source) : config = other := by
  have timeout := amountValue_inj (fields .timeout)
  have bundleTimeout := amountValue_inj (fields .bundleTimeout)
  have concurrency := amountValue_inj (fields .concurrency)
  have languages := textsValue_inj (fields .languages)
  have marker := Datum.text.inj (fields .marker)
  have extensions := textsValue_inj (fields .extensions)
  have skipped := textsValue_inj (fields .skipped)
  have allowedModules := textsValue_inj (fields .allowedModules)
  have node := Datum.text.inj (fields .node)
  have esbuild := textValue?_inj (fields .esbuild)
  have target := Datum.text.inj (fields .target)
  cases config
  cases other
  simp only at *
  subst_vars
  rfl

theorem mergeLayer_accepted :
    config.mergeLayer layer source = .ok last ↔
      Accepted layer ∧ last = { layer.foldr setEntry config with source } :=
  mergeLayer_ok.trans merge_ok

theorem source_mergeLayer (done : config.mergeLayer layer source = .ok last) : last.source = source := by
  obtain ⟨-, rfl⟩ := mergeLayer_accepted.mp done
  rfl

/-- An accepted layer gives the configuration that has its fields where it names them. -/
theorem mergeLayer_get (accepted : Accepted layer)
    (fields : ∀ field, last.get field =
      ((Datum.lookupName layer field.name).map field.taken).getD (config.get field)) :
    config.mergeLayer layer source = .ok { last with source } := by
  obtain ⟨merged, made⟩ : ∃ merged, config.mergeLayer layer source = .ok merged :=
    ⟨_, mergeLayer_accepted.mpr ⟨accepted, rfl⟩⟩
  rw [made]
  refine congrArg Except.ok (ext_get (fun field => ?_) (source_mergeLayer made))
  rw [get_mergeLayer made, ← fields]
  exact (get_source last source field).symm

theorem mergeLayer_refused {failure : Failure}
    (refused : config.mergeLayer layer source = .error failure) :
    (Untold layer ∧ failure = .scalar .hugeInteger) ∨
      (¬ Untold layer ∧ ∃ cause, failure = .config (.invalid source cause)) := by
  rw [mergeLayer, merge] at refused
  rw [← check_untold]
  cases checked : Contract.config.check (.mapping layer) with
  | ok => rw [checked] at refused; cases refused
  | error cause =>
      rw [checked] at refused
      cases cause with
      | untold => exact Or.inl ⟨rfl, (Except.error.inj refused).symm⟩
      | unknown | violated => exact Or.inr ⟨by simp, _, (Except.error.inj refused).symm⟩

/-- Two layers do together what they do one after the other. Without a common key they can change places,
and one that is merged again changes nothing but the source. A layer that is refused is reported as wrong
under its source, just unless it has a violation that no message can show. -/
theorem layers_merge_as_one (config : Config) (lower upper : Layer) (first second source : Text) :
    (∀ between last, Distinct upper → config.mergeLayer lower first = .ok between →
      between.mergeLayer upper second = .ok last →
        config.mergeLayer (overlaid lower upper) source = .ok { last with source } ∧
          (Disjoint lower upper → ∃ other, config.mergeLayer upper second = .ok other ∧
            other.mergeLayer lower first = .ok { last with source := first })) ∧
      (∀ between, config.mergeLayer lower first = .ok between →
        between.mergeLayer lower second = .ok { between with source := second }) ∧
      (Untold lower → config.mergeLayer lower first = .error (.scalar .hugeInteger)) ∧
      ∀ failure, ¬ Untold lower → config.mergeLayer lower first = .error failure →
        ∃ error rest, failure = .config error ∧
          error.message = Text.ofString "invalid configuration in " ++ first ++ Text.ofString ": " ++ rest := by
  refine ⟨fun between last distinct done again => ⟨?_, fun disjoint => ?_⟩, fun between done => ?_,
    fun untold => (fails_mergeLayer.mpr ⟨untold, rfl⟩).1, fun failure told refused => ?_⟩
  · have below := (mergeLayer_accepted.mp done).1
    have above := (mergeLayer_accepted.mp again).1
    refine mergeLayer_get (accepted_overlaid distinct below above) fun field => ?_
    rw [get_mergeLayer again, get_mergeLayer done, lookup_overlaid distinct, Option.map_or,
      Option.getD_or]
  · have below := (mergeLayer_accepted.mp done).1
    have above := (mergeLayer_accepted.mp again).1
    obtain ⟨other, made⟩ : ∃ other, config.mergeLayer upper second = .ok other :=
      ⟨_, mergeLayer_accepted.mpr ⟨above, rfl⟩⟩
    refine ⟨other, made, mergeLayer_get below fun field => ?_⟩
    rw [get_mergeLayer again, get_mergeLayer done, get_mergeLayer made]
    cases here : Datum.lookupName lower field.name with
    | none => rfl
    | some value =>
        cases there : Datum.lookupName upper field.name with
        | none => rfl
        | some other =>
            have differ := disjoint _ (Datum.lookupName_mem here) _ (Datum.lookupName_mem there)
            rw [Datum.same_text.mpr rfl] at differ
            cases differ
  · refine mergeLayer_get (mergeLayer_accepted.mp done).1 fun field => ?_
    rw [get_mergeLayer done]
    cases Datum.lookupName lower field.name <;> rfl
  · rcases mergeLayer_refused refused with ⟨untold, -⟩ | ⟨-, cause, rfl⟩
    · exact absurd untold told
    · exact ⟨_, cause.message, rfl, rfl⟩

def laterLayer : Layer := [(.text "node", .text "n"), (.text "timeout_ms", .int 3000)]

theorem layers_merge_as_one_tool :
    Distinct laterLayer ∧ defaults.mergeLayer toolLayer "a" = .ok { ofTool with source := "a" } ∧
      ∃ last, ({ ofTool with source := "a" } : Config).mergeLayer laterLayer "b" = .ok last ∧
        defaults.mergeLayer (overlaid toolLayer laterLayer) "c" = .ok { last with source := "c" } := by
  have distinct : Distinct laterLayer := by decide
  have done : defaults.mergeLayer toolLayer "a" = .ok { ofTool with source := "a" } :=
    Except.toOption_some.mp (by decide +kernel)
  have again : ({ ofTool with source := "a" } : Config).mergeLayer laterLayer "b" =
      .ok { ofTool with node := "n", timeout := 3000, source := "b" } :=
    Except.toOption_some.mp (by decide +kernel)
  refine ⟨distinct, done, _, again, ?_⟩
  exact ((layers_merge_as_one defaults toolLayer laterLayer "a" "b" "c").1 _ _ distinct done again).1

def hugeLayer : Layer := [(.text "timeout_ms", .int (-(tenTo Integer.digitLimit : Nat)))]

/-- A layer that is refused without a word about its source. -/
theorem refused_layer_untold :
    defaults.mergeLayer hugeLayer "scribe.yaml" = .error (.scalar .hugeInteger) := by
  have unshowable : (Contract.config.schema.violations (.mapping hugeLayer)).any
      (fun violation => !violation.lack.isShowable) = true := by decide +kernel
  have untold : Untold hugeLayer := by simpa [Untold] using unshowable
  exact (fails_mergeLayer.mpr ⟨untold, rfl⟩).1

end Config

end FenceCheck

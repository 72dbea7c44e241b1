import FenceCheck.Proofs.RequireCall

/-!
Which sources are bundled. A source is bundled just if it has an import, an export from another module
or a call of `import`, or if a call of `require` is found in it that asks for what is not built in. An
opening of a call that does not go on to a whole call asks for nothing: it is noticed as a reference, but
whatever stands behind it the source is left as it is.
-/

namespace FenceCheck

namespace Source

variable {source specifier : Text} {allowed : List Text}

def BuiltIn (allowed : List Text) (specifier : Text) : Prop :=
  Text.ofString "node:" <+: specifier ∨ specifier ∈ allowed

theorem isBuiltIn_iff : isBuiltIn allowed specifier = true ↔ BuiltIn allowed specifier := by
  rw [isBuiltIn, Bool.or_eq_true, Text.startsWith, List.isPrefixOf_iff_prefix, List.contains_iff_mem]
  rfl

theorem Stands.opens {front call : Text} (stands : Stands none source front call specifier) :
    requireCall.Occurs source := by
  obtain ⟨⟨rest, rfl⟩, here⟩ := stands
  obtain ⟨opening, closing, opens, -, rfl⟩ := here.spelled
  refine ⟨front, opening, specifier ++ closing ++ rest, by simp, ?_⟩
  rw [Cursor.past_none] at here
  exact (callOf_matches (by decide)).mpr ⟨here.word, opens⟩

theorem hasModuleReference_iff : hasModuleReference source = true ↔
    esModule.Occurs source ∨ requireCall.Occurs source := by
  have among (pattern : Pattern) :
      pattern ∈ [importFrom, importBare, exportFrom, requireCall, callOf "import"] ↔
        pattern ∈ [importFrom, importBare, exportFrom, callOf "import"] ∨ pattern = requireCall := by
    have moved : [importFrom, importBare, exportFrom, requireCall, callOf "import"].Perm
        [requireCall, importFrom, importBare, exportFrom, callOf "import"] :=
      @List.perm_middle _ requireCall [importFrom, importBare, exportFrom] [callOf "import"]
    rw [or_comm]
    exact moved.mem_iff.trans List.mem_cons
  rw [hasModuleReference, Pattern.occursIn_iff, moduleReference, esModule, Pattern.occurs_anyOf,
    Pattern.occurs_anyOf]
  simp only [among, or_and_right, exists_or, exists_eq_left]

theorem required_occurs (some : requiredSpecifiers source ≠ []) : requireCall.Occurs source := by
  obtain ⟨specifier, member⟩ := List.exists_mem_of_ne_nil _ some
  obtain ⟨front, call, stands⟩ := (calls_iff.mpr rfl).stands specifier member
  exact stands.opens

theorem needsBundling_iff : needsBundling source allowed = true ↔
    esModule.Occurs source ∨ ∃ specifier ∈ requiredSpecifiers source, ¬ BuiltIn allowed specifier := by
  have foreign : ((requiredSpecifiers source).any fun s => !isBuiltIn allowed s) = true ↔
      ∃ specifier ∈ requiredSpecifiers source, ¬ BuiltIn allowed specifier := by
    simp only [List.any_eq_true, Bool.not_eq_true', ← Bool.not_eq_true, isBuiltIn_iff]
  rw [needsBundling, Bool.and_eq_true, Bool.or_eq_true, foreign, hasModuleReference_iff,
    Pattern.occursIn_iff]
  constructor
  · exact And.right
  · rintro (occurs | ⟨specifier, member, other⟩)
    · exact ⟨Or.inl occurs, Or.inl occurs⟩
    · exact ⟨Or.inr (required_occurs (List.ne_nil_of_mem member)), Or.inr ⟨specifier, member, other⟩⟩

/-- A source is bundled just for a reference that needs a bundler or for a module that is not built in.
All such references are references to modules, and of more that is allowed no source is bundled that
was not bundled before. -/
theorem bundled_by_reference (source : Text) (allowed : List Text) :
    (needsBundling source allowed = true ↔
      esModule.Occurs source ∨
        ∃ specifier ∈ requiredSpecifiers source, ¬ BuiltIn allowed specifier) ∧
    (esModule.Occurs source ∨ requiredSpecifiers source ≠ [] → hasModuleReference source = true) ∧
    ∀ more, allowed ⊆ more → needsBundling source more = true →
      needsBundling source allowed = true := by
  refine ⟨needsBundling_iff, fun either => ?_, fun more among bundled => ?_⟩
  · exact hasModuleReference_iff.mpr (either.imp_right required_occurs)
  · rw [needsBundling_iff] at bundled ⊢
    refine bundled.imp_right ?_
    rintro ⟨specifier, member, other⟩
    exact ⟨specifier, member, fun builtIn => other (builtIn.imp_right (among ·))⟩

/-- The text behind the opening of a call goes on to the end of a whole one. -/
def Finishes (specifier rest : Text) : Prop :=
  specifier ≠ [] ∧ (∀ c ∈ specifier, isQuote c = false) ∧
    ∃ closing behind, Closing closing ∧ rest = specifier ++ (closing ++ behind)

/-- What a source that is not bundled refers to. It has no import, no export from another module and no
call of `import`, and the calls of `require` that are found from left to right ask for what is built in.
So each opening of a call begins one that asks for something built in, or none at all, or it stands
inside of such a call. -/
theorem unbundled_references (source : Text) (allowed : List Text) :
    (needsBundling source allowed = false ↔
      ¬ esModule.Occurs source ∧
        ∃ specifiers, Calls none source specifiers ∧ ∀ s ∈ specifiers, BuiltIn allowed s) ∧
    (needsBundling source allowed = false →
      ∀ front opening rest, source = front ++ opening ++ rest →
        requireCall.Matches front.getLast? opening rest →
          (∃ specifier, Finishes specifier rest ∧ BuiltIn allowed specifier) ∨
          (¬ ∃ specifier, Finishes specifier rest) ∨
          Covered none source (BuiltIn allowed) front) := by
  have exact : needsBundling source allowed = false ↔ ¬ esModule.Occurs source ∧
      ∀ s ∈ requiredSpecifiers source, BuiltIn allowed s := by
    rw [← Bool.not_eq_true, needsBundling_iff]
    simp only [not_or, not_exists, not_and, Classical.not_not]
  constructor
  · rw [exact]
    refine and_congr_right fun _ => ⟨fun all => ⟨_, calls_iff.mpr rfl, all⟩, ?_⟩
    rintro ⟨specifiers, calls, all⟩
    exact calls_iff.mp calls ▸ all
  · intro unbundled front opening rest split matched
    obtain ⟨-, all⟩ := exact.mp unbundled
    -- Only an opening that goes on to a whole call is one that the search can find.
    by_cases whole : ∃ specifier, Finishes specifier rest
    · obtain ⟨specifier, some, plain, closing, behind, closes, rfl⟩ := whole
      obtain ⟨word, opens⟩ := (callOf_matches (by decide)).mp matched
      have here : Call (Cursor.past none front) (opening ++ (specifier ++ closing)) specifier := by
        rw [Cursor.past_none]
        exact ⟨word, some, plain, opening, closing, opens, closes, rfl⟩
      have stands : Stands none source front (opening ++ (specifier ++ closing)) specifier :=
        ⟨⟨behind, by simp [split]⟩, here⟩
      rcases (calls_iff.mpr rfl).complete stands with member | covered
      · exact Or.inl ⟨specifier, ⟨some, plain, closing, behind, closes, rfl⟩, all specifier member⟩
      · exact Or.inr (Or.inr (covered.imp all))
    · exact Or.inr (Or.inl whole)

/-- The quote in a name hides the call from the search, and the source runs as it is. -/
theorem quote_in_name_hides_call :
    let source : Text := "require(\x22./it\x27s\x22)"
    needsBundling source [] = false ∧ ∃ opening rest, source = opening ++ rest ∧
      requireCall.Matches none opening rest ∧
        ∀ specifier q behind, isQuote q = true → rest = specifier ++ q :: behind →
          ¬ BuiltIn [] specifier := by
  intro source
  have opens : requireCall.Matches none "require(\x22" "./it\x27s\x22)" :=
    (callOf_matches (by decide)).mpr ⟨rfl, .mk (List.forall_mem_nil _) (List.forall_mem_nil _) rfl⟩
  refine ⟨by decide +kernel, "require(\x22", "./it\x27s\x22)", rfl, opens, ?_⟩
  rintro specifier q behind quoted split (⟨name, rfl⟩ | never)
  · cases split
  · cases never

end Source

end FenceCheck

import FenceCheck.Proofs.ConfigNumber
import FenceCheck.Proofs.FenceRendering
import FenceCheck.Proofs.MarkerWords

/-!
The texts of a configuration that have a form. The end of a form is the end of the text or the place
before a line feed that ends it, so a text is accepted just if it has its form up to one such line feed.
Such an extension is still that of some file, but no info holds a line feed: a marker that ends in one
opts no block out.
-/

namespace FenceCheck

namespace Pattern

variable {accepts : CodePoint → Bool} {before : Option CodePoint} {t part rest : Text}

theorem match_isSome {pattern : Pattern} : (pattern.match? (Cursor.start t)).isSome = true ↔
    ∃ part rest, t = part ++ rest ∧ pattern.Matches none part rest := by
  constructor
  · intro found
    obtain ⟨behind, here⟩ := Option.isSome_iff_exists.mp found
    obtain ⟨part, rest, split, matched, -⟩ := runThen_sound pattern here
    exact ⟨part, rest, split, matched⟩
  · rintro ⟨part, rest, rfl, matched⟩
    exact runThen_complete matched rfl

theorem matches_oneOrMore : (oneOrMore accepts).Matches before part rest ↔
    part ≠ [] ∧ ∀ c ∈ part, accepts c = true := by
  constructor
  · rintro ⟨left, right, rfl, ⟨c, accepted, rfl⟩, all⟩
    exact ⟨List.cons_ne_nil _ _, List.forall_mem_cons.mpr ⟨accepted, all⟩⟩
  · rintro ⟨some, all⟩
    obtain ⟨c, more, rfl⟩ := List.exists_cons_of_ne_nil some
    obtain ⟨accepted, all⟩ := List.forall_mem_cons.mp all
    exact ⟨[c], more, rfl, ⟨c, accepted, rfl⟩, all⟩

theorem matches_sequence_concat {patterns : List Pattern} {last : Pattern} :
    (sequence (patterns ++ [last])).Matches before part rest ↔
      ∃ left right, part = left ++ right ∧
        (sequence patterns).Matches before left (right ++ rest) ∧
        last.Matches (Cursor.past before left) right rest := by
  induction patterns generalizing before part with
  | nil =>
      constructor
      · exact fun matched => ⟨[], part, rfl, rfl, matched⟩
      · rintro ⟨left, right, rfl, rfl, matched⟩
        exact matched
  | cons first others ih =>
      -- A sequence of one pattern is that pattern, with no empty one behind it.
      cases others with
      | nil => exact Iff.rfl
      | cons second others =>
          constructor
          · rintro ⟨left, right, rfl, one, further⟩
            obtain ⟨middle, right, rfl, other, matched⟩ := ih.mp further
            rw [List.append_assoc] at one
            refine ⟨left ++ middle, right, (List.append_assoc ..).symm,
              ⟨left, middle, rfl, one, other⟩, ?_⟩
            rwa [Cursor.past_append]
          · rintro ⟨front, right, rfl, ⟨left, middle, rfl, one, other⟩, matched⟩
            rw [Cursor.past_append] at matched
            refine ⟨left, middle ++ right, List.append_assoc .., ?_,
              ih.mpr ⟨middle, right, rfl, other, matched⟩⟩
            rwa [List.append_assoc]

end Pattern

namespace Contract

/-- A text that is not empty and has code points of a class alone. -/
def Made (accepts : CodePoint → Bool) (t : Text) : Prop := t ≠ [] ∧ ∀ c ∈ t, accepts c = true

def isMarkerLetter (c : CodePoint) : Bool := isAlphanumeric c || c = .char '_' || c = .char '-'

def IsMarker (t : Text) : Prop := Made isMarkerLetter t

def IsExtension (t : Text) : Prop := ∃ word, t = .char '.' :: word ∧ Made isAlphanumeric word

def IsModule (t : Text) : Prop := Made (fun c => isLower c || c = .char '_' || c = .char '/') t

def IsTarget (t : Text) : Prop :=
  ∃ letters version, t = letters ++ version ∧ Made isLower letters ∧
    ∀ c ∈ version, (isDigit c || c = .char '.') = true

/-- A text that has a form up to a line feed at its end. -/
def Loosely (form : Text → Prop) (t : Text) : Prop :=
  ∃ body, form body ∧ (t = body ∨ t = body ++ [.char '\n'])

variable {accepts : CodePoint → Bool} {shown : String} {parts : List Pattern} {form : Text → Prop}
  {t : Text}

theorem Made.not_mem {c : CodePoint} (made : Made accepts t) (other : accepts c = false) : c ∉ t := by
  intro member
  rw [made.2 c member] at other
  cases other

theorem IsMarker.single (marked : IsMarker t) : .char '\n' ∉ t := Made.not_mem marked (by decide)

theorem IsModule.single (named : IsModule t) : .char '\n' ∉ t := Made.not_mem named (by decide)

theorem IsExtension.single (extension : IsExtension t) : .char '\n' ∉ t := by
  obtain ⟨word, rfl, made⟩ := extension
  exact List.not_mem_cons_of_ne_of_not_mem (by decide) (made.not_mem (by decide))

theorem IsTarget.single (target : IsTarget t) : .char '\n' ∉ t := by
  obtain ⟨letters, version, rfl, made, all⟩ := target
  rw [List.mem_append]
  rintro (member | member)
  · exact made.not_mem (by decide) member
  · cases all _ member

theorem Loosely.full (loose : Loosely form t) (single : ∀ {body}, form body → .char '\n' ∉ body) :
    form t ↔ .char '\n' ∉ t := by
  refine ⟨single, fun missing => ?_⟩
  obtain ⟨body, formed, rfl | rfl⟩ := loose
  · exact formed
  · exact absurd (List.mem_append_right body (List.mem_singleton_self _)) missing

theorem admits_textForm
    (means : ∀ body rest, (Pattern.sequence parts).Matches none body rest ↔ form body) :
    (textForm shown parts).admits t = true ↔ Loosely form t := by
  rw [TextForm.admits, textForm, Pattern.match_isSome]
  simp only [Pattern.matches_sequence_concat, means]
  constructor
  · rintro ⟨part, rest, rfl, body, behind, rfl, formed, rfl, last⟩
    rw [List.append_nil]
    refine ⟨body, formed, last.imp ?_ ?_⟩
    · rintro rfl
      exact List.append_nil _
    · rintro rfl
      rfl
  · rintro ⟨body, formed, rfl | rfl⟩
    · exact ⟨t, [], (List.append_nil _).symm, t, [], (List.append_nil _).symm, formed, rfl, Or.inl rfl⟩
    · exact ⟨body, _, rfl, body, [], (List.append_nil _).symm, formed, rfl, Or.inr rfl⟩

theorem admits_marker : markerForm.admits t = true ↔ Loosely IsMarker t :=
  admits_textForm fun _ _ => Pattern.matches_oneOrMore

theorem admits_module : moduleForm.admits t = true ↔ Loosely IsModule t :=
  admits_textForm fun _ _ => Pattern.matches_oneOrMore

theorem admits_extension : extensionForm.admits t = true ↔ Loosely IsExtension t := by
  refine admits_textForm fun body rest => ?_
  constructor
  · rintro ⟨dot, word, rfl, literal, made⟩
    rw [Pattern.matches_literal.mp literal]
    exact ⟨word, rfl, Pattern.matches_oneOrMore.mp made⟩
  · rintro ⟨word, rfl, made⟩
    exact ⟨".", word, rfl, Pattern.matches_literal.mpr rfl, Pattern.matches_oneOrMore.mpr made⟩

theorem admits_target : targetForm.admits t = true ↔ Loosely IsTarget t := by
  refine admits_textForm fun body rest => ?_
  constructor
  · rintro ⟨letters, version, rfl, made, all⟩
    exact ⟨letters, version, rfl, Pattern.matches_oneOrMore.mp made, all⟩
  · rintro ⟨letters, version, rfl, made, all⟩
    exact ⟨letters, version, rfl, Pattern.matches_oneOrMore.mpr made, all⟩

/-! Values that fit the schemas of such texts. -/

variable {value : Datum} {wanted : TextForm}

theorem fits_formed : Schema.Fits (string ++ [.form wanted]) value ↔
    ∃ t, value.opened = .text t ∧ wanted.admits t = true := by
  rw [string, List.singleton_append, Schema.fits_cons, Schema.fits_cons, Demand.met_kind,
    Kind.admits_string]
  constructor
  · rintro ⟨⟨t, text⟩, met, -⟩
    exact ⟨t, text, (Demand.met_form text).mp met⟩
  · rintro ⟨t, text, admitted⟩
    exact ⟨⟨t, text⟩, (Demand.met_form text).mpr admitted, Schema.fits_nil⟩

theorem fits_each {more : Schema} (fits : Schema.Fits (listOf (string ++ [.form wanted]) ++ more) value) :
    ∃ values, value.opened = .list values ∧
      ∀ value ∈ values, ∃ t, value.opened = .text t ∧ wanted.admits t = true := by
  obtain ⟨kind, items, -⟩ := (Schema.fits_cons.trans (and_congr_right fun _ => Schema.fits_cons)).mp fits
  obtain ⟨values, list⟩ := Kind.admits_array.mp (Demand.met_kind.mp kind)
  exact ⟨values, list, fun value member => fits_formed.mp ((Demand.met_items list).mp items value member)⟩

theorem marker_visible {c : CodePoint} (letter : isMarkerLetter c = true) : c.isBlank = false := by
  -- All of these letters are below 128.
  have table : ∀ n < 128, isMarkerLetter (.char (Char.ofNat n)) = true →
      (CodePoint.char (Char.ofNat n)).isBlank = false := by
    decide
  cases c with
  | surrogate half => cases letter
  | char c =>
      have small : c.toNat < 128 := by
        simp only [isMarkerLetter, isAlphanumeric, isLower, isDigit, isBetween, Bool.or_eq_true,
          Bool.and_eq_true, decide_eq_true_eq, CodePoint.char.injEq] at letter
        rcases letter with (((lower | upper) | digit) | rfl) | rfl
        · exact Nat.lt_of_le_of_lt (m := 122) lower.2 (by decide)
        · exact Nat.lt_of_le_of_lt (m := 90) upper.2 (by decide)
        · exact Nat.lt_of_le_of_lt (m := 57) digit.2 (by decide)
        · decide
        · decide
      have visible := table c.toNat small
      rw [Char.ofNat_toNat] at visible
      exact visible letter

end Contract

namespace Selection

variable {marker : Text}

theorem optedOut_self (marker : Text) : optedOut marker marker = true :=
  Pattern.occursIn_iff.mpr (standing_occurs.mpr ⟨[], [], (List.append_nil _).symm, rfl, rfl⟩)

theorem marker_stands (marked : Contract.IsMarker marker) (origin : Path) :
    ∃ t, ∃ block ∈ (Extraction.ofText origin t).blocks, optedOut block.info marker = true := by
  have visible {c : CodePoint} (member : c ∈ marker) : ¬ c.isBlank = true :=
    Bool.eq_false_iff.mp (Contract.marker_visible (marked.2 c member))
  let block : Block := ⟨"js", [], origin, 1, marker⟩
  have named : Text.ofString "js" ≠ [] ∧ (∀ c ∈ Text.ofString "js", c.isAsciiWord = true) ∧
      Text.lower "js" = "js" := by
    decide
  have stable : Fence.Stable block :=
    { named := named.1
      word := named.2.1
      lowered := named.2.2
      stripped := Text.strip_of_ends (fun c first => visible (List.mem_of_head? first))
        fun c last => visible (List.mem_of_getLast? last)
      single := fun member => visible member (by decide)
      source := ⟨[], rfl, List.forall_mem_nil _⟩ }
  have read : Extraction.ofText origin (Fence.renderAll [⟨[], block⟩] []) =
      ⟨Fence.placed origin 1 [⟨[], block⟩], []⟩ :=
    Fence.extractLines_renderAll (List.forall_mem_singleton.mpr stable)
      (List.forall_mem_singleton.mpr (List.forall_mem_nil _)) (by decide)
  refine ⟨Fence.renderAll [⟨[], block⟩] [], block, ?_, optedOut_self marker⟩
  rw [read]
  exact List.mem_singleton_self _

theorem marker_broken {body : Text} {origin : Path} {t : Text} {block : Block}
    (member : block ∈ (Extraction.ofText origin t).blocks) :
    ¬ optedOut block.info (body ++ [.char '\n']) = true := by
  intro out
  -- The line feed would be one of the info, which is a single line.
  obtain ⟨front, rest, split, -⟩ := standing_occurs.mp (Pattern.occursIn_iff.mp out)
  apply (Fence.blocks_stable origin t block member).single
  rw [split]
  simp

theorem marker_used (loose : Contract.Loosely Contract.IsMarker marker) :
    (∃ origin t, ∃ block ∈ (Extraction.ofText origin t).blocks, optedOut block.info marker = true) ↔
      Contract.IsMarker marker := by
  constructor
  · rintro ⟨origin, t, block, member, out⟩
    obtain ⟨body, marked, rfl | rfl⟩ := loose
    · exact marked
    · exact absurd out (marker_broken member)
  · exact fun marked => ⟨Path.here, marker_stands marked Path.here⟩

end Selection

theorem Path.suffix_dotted {word : Text} (some : word ≠ []) (dotless : .char '.' ∉ word) :
    Path.suffix ⟨[], [Text.ofString "a." ++ word]⟩ = .char '.' :: word := by
  have behind : ((Text.ofString "a." ++ word).reverse.takeWhile (· ≠ .char '.')) = word.reverse := by
    rw [List.reverse_append, List.takeWhile_append_of_pos]
    · exact List.append_nil _
    · intro c member
      simpa using ne_of_mem_of_not_mem (List.mem_reverse.mp member) dotless
  have long : 0 < word.length := List.length_pos_of_ne_nil some
  have length : (Text.ofString "a." ++ word).length = word.length + 2 :=
    List.length_append.trans (Nat.add_comm 2 _)
  have place : Path.dotIndex? (Text.ofString "a." ++ word) = Option.some 1 := by
    simp only [Path.dotIndex?, behind, List.length_reverse, length]
    rw [if_pos (by omega)]
    congr 1
    omega
  have name : Path.name ⟨[], [Text.ofString "a." ++ word]⟩ = Text.ofString "a." ++ word := rfl
  rw [Path.suffix, name, place]
  rfl

theorem Path.suffix_extension {extension : Text}
    (loose : Contract.Loosely Contract.IsExtension extension) :
    ∃ name, slash ∉ name ∧ suffix ⟨[], [name]⟩ = extension := by
  obtain ⟨body, ⟨word, rfl, made⟩, split⟩ := loose
  have dotless : .char '.' ∉ word := made.not_mem (by decide)
  have bare : slash ∉ word := made.not_mem (by decide)
  rcases split with rfl | rfl
  · exact ⟨_, by simpa [Text.ofString, Text.ofChars, slash] using bare, suffix_dotted made.1 dotless⟩
  · refine ⟨Text.ofString "a." ++ (word ++ [.char '\n']), ?_, suffix_dotted (by simp) ?_⟩
    · simpa [Text.ofString, Text.ofChars, slash] using bare
    · simpa using dotless

namespace Config

open Contract

variable {layers : List SourcedLayer} {config merged : Config} {field : Field} {wanted : TextForm}

def Takes (config : Config) (source : Text) (field : Field) (value : Datum) : Prop :=
  ∃ merged, config.merge [(.text field.name, value)] source = .ok merged

theorem takes_iff (config : Config) (source : Text) (field : Field) (value : Datum) :
    config.Takes source field value ↔ field.schema.Fits value := by
  constructor
  · rintro ⟨merged, done⟩
    exact (merge_ok.mp done).1.fits field value (by simp [Datum.lookupName])
  · exact fun fits => ⟨_, merge_ok.mpr ⟨accepted_single fits, rfl⟩⟩

theorem text_mergeAll {before t : Text} (accepted : config.mergeAll layers = .ok merged)
    (schema : field.schema = string ++ [.form wanted]) (first : config.get field = .text before)
    (last : merged.get field = .text t) (formed : wanted.admits before = true) :
    wanted.admits t = true := by
  -- The last layer that gives the field decides.
  have result := get_mergeAll accepted field
  -- The field holds what it held at first, or what the last layer that gives it demands.
  cases given : lastGiven field layers with
  | none =>
      rw [given, first, last] at result
      cases result
      exact formed
  | some value =>
      rw [given, last, schema] at result
      obtain ⟨fits, taken⟩ := result
      obtain ⟨other, text, admitted⟩ := fits_formed.mp fits
      rw [Field.taken, text] at taken
      cases taken
      exact admitted

theorem texts_mergeAll {before texts : List Text} {more : Schema}
    (accepted : config.mergeAll layers = .ok merged)
    (schema : field.schema = listOf (string ++ [.form wanted]) ++ more) (kept : field ≠ .languages)
    (first : config.get field = textsValue before) (last : merged.get field = textsValue texts)
    (formed : ∀ t ∈ before, wanted.admits t = true) : ∀ t ∈ texts, wanted.admits t = true := by
  have result := get_mergeAll accepted field
  cases given : lastGiven field layers with
  | none =>
      rw [given, first, last] at result
      rw [textsValue_inj result]
      exact formed
  | some value =>
      rw [given, last, schema] at result
      obtain ⟨fits, taken⟩ := result
      obtain ⟨values, list, each⟩ := fits_each fits
      simp only [Field.taken, list, if_neg kept] at taken
      have same : texts = values.map (·.opened.plain) := by
        apply textsValue_inj
        rw [taken, textsValue, List.map_map]
        rfl
      intro t member
      rw [same] at member
      obtain ⟨item, among, rfl⟩ := List.mem_map.mp member
      obtain ⟨t, text, admitted⟩ := each item among
      rw [text]
      exact admitted

theorem fits_lone {more : Schema} {t : Text} (many : ∀ demand ∈ more, demand.Met (.list [.text t])) :
    Schema.Fits (listOf (string ++ [.form wanted]) ++ more) (.list [.text t]) ↔
      wanted.admits t = true := by
  constructor
  · intro fits
    obtain ⟨values, list, each⟩ := fits_each fits
    cases list
    obtain ⟨other, text, admitted⟩ := each _ (List.mem_singleton_self _)
    cases text
    exact admitted
  · intro admitted
    refine List.forall_mem_append.mpr ⟨Schema.fits_cons.mpr ⟨Demand.met_kind.mpr rfl,
      Schema.fits_cons.mpr ⟨(Demand.met_items rfl).mpr ?_, Schema.fits_nil⟩⟩, many⟩
    exact List.forall_mem_singleton.mpr (fits_formed.mpr ⟨t, rfl, admitted⟩)

/-- The texts of a configuration have their forms in full. -/
structure Formed (config : Config) : Prop where
  marker : IsMarker config.marker
  extensions : ∀ extension ∈ config.extensions, IsExtension extension
  modules : ∀ name ∈ config.allowedModules, IsModule name
  target : IsTarget config.target

/-- The same, each up to a line feed at its end. -/
structure LooselyFormed (config : Config) : Prop where
  marker : Loosely IsMarker config.marker
  extensions : ∀ extension ∈ config.extensions, Loosely IsExtension extension
  modules : ∀ name ∈ config.allowedModules, Loosely IsModule name
  target : Loosely IsTarget config.target

def formedTexts (config : Config) : List Text :=
  config.marker :: config.target :: (config.extensions ++ config.allowedModules)

theorem LooselyFormed.full (loose : config.LooselyFormed) :
    config.Formed ↔ ∀ t ∈ config.formedTexts, .char '\n' ∉ t := by
  simp only [formedTexts, List.forall_mem_cons, List.forall_mem_append]
  constructor
  · intro formed
    exact ⟨formed.marker.single, formed.target.single,
      fun extension member => (formed.extensions extension member).single,
      fun name member => (formed.modules name member).single⟩
  · rintro ⟨marker, target, extensions, modules⟩
    exact
      { marker := (loose.marker.full IsMarker.single).mpr marker
        extensions := fun extension member =>
          ((loose.extensions extension member).full IsExtension.single).mpr (extensions extension member)
        modules := fun name member =>
          ((loose.modules name member).full IsModule.single).mpr (modules name member)
        target := (loose.target.full IsTarget.single).mpr target }

theorem looselyFormed_mergeAll (accepted : defaults.mergeAll layers = .ok config) :
    config.LooselyFormed := by
  have marker : markerForm.admits config.marker = true :=
    text_mergeAll accepted (show Field.marker.schema = _ from rfl) rfl rfl (by decide +kernel)
  have extensions : ∀ extension ∈ config.extensions, extensionForm.admits extension = true :=
    texts_mergeAll accepted (show Field.extensions.schema = _ from rfl) (by decide) rfl rfl
      (by decide +kernel)
  have modules : ∀ name ∈ config.allowedModules, moduleForm.admits name = true :=
    texts_mergeAll accepted (show Field.allowedModules.schema = _ ++ [] from rfl) (by decide) rfl rfl
      (by decide +kernel)
  have target : targetForm.admits config.target = true :=
    text_mergeAll accepted (show Field.target.schema = _ from rfl) rfl rfl (by decide +kernel)
  exact
    { marker := admits_marker.mp marker
      extensions := fun extension member => admits_extension.mp (extensions extension member)
      modules := fun name member => admits_module.mp (modules name member)
      target := admits_target.mp target }

/-- After any layers that are accepted the marker, the extensions, the modules and the target have their
forms up to a line feed at the end, and in full just if none of them holds a line feed. Every extension
is the suffix of some name; the marker opts out a block of some document just if it has its form in
full. A further layer is accepted with any text that has its form up to a line feed, and no other. -/
theorem accepted_texts_formed (accepted : defaults.mergeAll layers = .ok config) :
    config.LooselyFormed ∧
    (config.Formed ↔ ∀ t ∈ config.formedTexts, .char '\n' ∉ t) ∧
    (∀ extension ∈ config.extensions,
      ∃ name, Path.slash ∉ name ∧ Path.suffix ⟨[], [name]⟩ = extension) ∧
    ((∃ origin t, ∃ block ∈ (Extraction.ofText origin t).blocks,
      Selection.optedOut block.info config.marker = true) ↔ IsMarker config.marker) ∧
    ∀ source t : Text,
      (config.Takes source .marker (.text t) ↔ Loosely IsMarker t) ∧
      (config.Takes source .extensions (.list [.text t]) ↔ Loosely IsExtension t) ∧
      (config.Takes source .allowedModules (.list [.text t]) ↔ Loosely IsModule t) ∧
      (config.Takes source .target (.text t) ↔ Loosely IsTarget t) := by
  have loose : config.LooselyFormed := looselyFormed_mergeAll accepted
  refine ⟨loose, loose.full,
    fun extension member => Path.suffix_extension (loose.extensions extension member),
    Selection.marker_used loose.marker, fun source t => ?_⟩
  have formed (form : TextForm) : Schema.Fits (string ++ [.form form]) (.text t) ↔
      form.admits t = true := by
    rw [fits_formed]
    simp [Datum.opened]
  refine ⟨(takes_iff ..).trans ((formed markerForm).trans admits_marker),
    (takes_iff ..).trans ((fits_lone ?_).trans admits_extension),
    (takes_iff ..).trans (Iff.trans ?_ admits_module),
    (takes_iff ..).trans ((formed targetForm).trans admits_target)⟩
  · exact List.forall_mem_singleton.mpr rfl
  · exact fits_lone (List.forall_mem_nil _)

def markerLayer (marker source : Text) : SourcedLayer :=
  ([(.text Field.marker.name, .text marker)], source)

theorem mergeAll_marker {marker : Text} (admitted : markerForm.admits marker = true) (source : Text) :
    defaults.mergeAll [markerLayer marker source] = .ok { defaults with marker, source } := by
  have fits : Field.marker.schema.Fits (.text marker) := fits_formed.mpr ⟨marker, rfl, admitted⟩
  have merged : defaults.merge [(.text Field.marker.name, .text marker)] source =
      .ok { defaults with marker, source } := by
    refine merge_ok.mpr ⟨accepted_single fits, ?_⟩
    rw [List.foldr_cons, setEntry_named]
    rfl
  simp only [mergeAll, markerLayer, List.foldlM_cons, List.foldlM_nil, merged, bind, Except.bind]
  rfl

theorem accepted_texts_formed_skip :
    let config : Config := { defaults with marker := "skip-me", source := "layer" }
    defaults.mergeAll [markerLayer "skip-me" "layer"] = .ok config ∧
      ∃ origin t, ∃ block ∈ (Extraction.ofText origin t).blocks,
        Selection.optedOut block.info config.marker = true := by
  intro config
  have accepted : defaults.mergeAll [markerLayer "skip-me" "layer"] = .ok config :=
    mergeAll_marker (by decide +kernel) "layer"
  obtain ⟨-, -, -, used, -⟩ := accepted_texts_formed accepted
  exact ⟨accepted, used.mpr ⟨by decide, by decide⟩⟩

/-- A marker with a line feed behind it is accepted, and the word in it does not opt out any more. -/
theorem broken_marker_accepted :
    let config : Config := { defaults with marker := "nocheck\n", source := "layer-1" }
    defaults.mergeAll [markerLayer "nocheck\n" "layer-1"] = .ok config ∧ ¬ IsMarker config.marker ∧
      Selection.optedOut "nocheck" config.marker = false ∧
      Selection.optedOut "nocheck" defaults.marker = true := by
  intro config
  refine ⟨mergeAll_marker (by decide +kernel) "layer-1", ?_, by decide +kernel, by decide +kernel⟩
  intro marked
  have feed := marked.2 (.char '\n') (by decide)
  cases feed

end Config

end FenceCheck

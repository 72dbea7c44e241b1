import Mathlib.Data.List.Forall2

/-!
Steps that can fail. A row of steps ends well if each of its steps does, and otherwise fails as the
first of them that fails.
-/

namespace FenceCheck

namespace Except

variable {ε δ α β : Type}

theorem bind_ok {first : Except ε α} {next : α → Except ε β} {result : β} :
    first >>= next = .ok result ↔ ∃ value, first = .ok value ∧ next value = .ok result := by
  cases first <;> simp [bind, Except.bind]

theorem bind_error {first : Except ε α} {next : α → Except ε β} {fault : ε} :
    first >>= next = .error fault ↔
      first = .error fault ∨ ∃ value, first = .ok value ∧ next value = .error fault := by
  cases first <;> simp [bind, Except.bind]

theorem toOption_some {first : Except ε α} {value : α} :
    first.toOption = some value ↔ first = .ok value := by
  cases first <;> simp [Except.toOption]

theorem mapError_ok {wrap : ε → δ} {first : Except ε α} {value : α} :
    first.mapError wrap = .ok value ↔ first = .ok value := by
  constructor
  · intro mapped
    cases first <;> cases mapped
    rfl
  · rintro rfl
    rfl

theorem mapError_error {wrap : ε → δ} {first : Except ε α} {fault : δ} :
    first.mapError wrap = .error fault ↔ ∃ cause, first = .error cause ∧ wrap cause = fault := by
  constructor
  · intro mapped
    cases first with
    | error cause =>
        cases mapped
        exact ⟨cause, rfl, rfl⟩
    | ok value => cases mapped
  · rintro ⟨cause, rfl, rfl⟩
    rfl

theorem mapM_ok {f : α → Except ε β} {items : List α} {results : List β} :
    items.mapM f = .ok results ↔
      List.Forall₂ (fun item result => f item = .ok result) items results := by
  induction items generalizing results with
  | nil =>
      rw [List.forall₂_nil_left_iff]
      exact ⟨fun done => (Except.ok.inj done).symm, fun none => none ▸ rfl⟩
  | cons item items ih =>
      rw [List.mapM_cons, bind_ok, List.forall₂_cons_left_iff]
      constructor
      · rintro ⟨result, here, done⟩
        obtain ⟨rest, there, done⟩ := bind_ok.mp done
        exact ⟨result, rest, here, ih.mp there, (Except.ok.inj done).symm⟩
      · rintro ⟨result, rest, here, there, rfl⟩
        exact ⟨result, here, bind_ok.mpr ⟨rest, ih.mpr there, rfl⟩⟩

theorem mapM_exists {f : α → Except ε β} {items : List α}
    (each : ∀ item ∈ items, ∃ result, f item = .ok result) :
    ∃ results, items.mapM f = .ok results := by
  induction items with
  | nil => exact ⟨[], rfl⟩
  | cons item items ih =>
      obtain ⟨⟨result, here⟩, others⟩ := List.forall_mem_cons.mp each
      obtain ⟨results, there⟩ := ih others
      rw [List.mapM_cons]
      exact ⟨result :: results, bind_ok.mpr ⟨_, here, bind_ok.mpr ⟨_, there, rfl⟩⟩⟩

theorem mapM_error {f : α → Except ε β} {items : List α} {fault : ε}
    (failed : items.mapM f = .error fault) : ∃ item ∈ items, f item = .error fault := by
  induction items with
  | nil => cases failed
  | cons item items ih =>
      rw [List.mapM_cons] at failed
      rcases bind_error.mp failed with here | ⟨result, -, later⟩
      · exact ⟨item, List.mem_cons_self, here⟩
      · rcases bind_error.mp later with there | ⟨results, -, never⟩
        · obtain ⟨other, member, faulty⟩ := ih there
          exact ⟨other, List.mem_cons_of_mem _ member, faulty⟩
        · cases never

theorem mapM_attach (f : α → Except ε β) (items : List α) :
    items.attach.mapM (fun item => f item.val) = items.mapM f := by
  have mapped := List.mapM_map (m := Except ε) (f := Subtype.val) (g := f) (l := items.attach)
  rw [List.attach_map_subtype_val] at mapped
  exact mapped.symm

end Except

end FenceCheck

import FenceCheck.Proofs.ScreenText

/-!
Taking colours out of a text. A text that holds no colour codes itself gives none together with what a
console writes behind it, so deleting all codes from a coloured text leaves what would have been written
without colours.
-/

namespace FenceCheck

namespace Console

variable {style : ConsoleStyle}

def colorCodes : List Text :=
  [Color.green.escape, Color.red.escape, Color.yellow.escape, Color.gray.escape, colorEnd]

/-- The text without colour codes; `skip` code points of a code are still to go. -/
def decolorFrom : Nat → Text → Text
  | _, [] => []
  | skip + 1, _ :: rest => decolorFrom skip rest
  | 0, c :: rest =>
      match colorCodes.find? (·.isPrefixOf (c :: rest)) with
      | none => c :: decolorFrom 0 rest
      | some code => decolorFrom (code.length - 1) rest

def decolor (t : Text) : Text := decolorFrom 0 t

def Colorless (t : Text) : Prop := ∀ code ∈ colorCodes, ¬ code <:+: t

instance : DecidablePred Colorless := fun _ => inferInstanceAs (Decidable (∀ _ ∈ _, ¬ _))

/-- Without its colour codes a text is another, whatever follows it. -/
def Uncolors (t bare : Text) : Prop := ∀ more, decolor (t ++ more) = bare ++ decolor more

section

variable {t bare more moreBare : Text}

theorem decolor_cons {c : CodePoint} (bare : ∀ code ∈ colorCodes, ¬ code <+: c :: t) :
    decolor (c :: t) = c :: decolor t := by
  have none : colorCodes.find? (·.isPrefixOf (c :: t)) = none := by
    rw [List.find?_eq_none]
    exact fun code among begins => bare code among (List.isPrefixOf_iff_prefix.mp begins)
  rw [decolor, decolorFrom, none]
  rfl

/-- What a console writes right behind a label or a message. No colour code goes on with it. -/
def closers : List CodePoint := [.char ' ', .char '\n', Terminal.escape]

theorem colorCodes_escape : ∀ code ∈ colorCodes,
    code = Terminal.escape :: code.tail ∧ ∀ c ∈ closers, c ∉ code.tail := by
  decide

theorem colorless_plain (plain : Terminal.escape ∉ t) : Colorless t := by
  intro code among within
  rw [(colorCodes_escape code among).1] at within
  exact plain (within.subset List.mem_cons_self)

theorem uncolors_nil : Uncolors [] [] := fun _ => rfl

theorem Uncolors.append (first : Uncolors t bare) (second : Uncolors more moreBare) :
    Uncolors (t ++ more) (bare ++ moreBare) := by
  intro rest
  rw [List.append_assoc, first, second, List.append_assoc]

theorem uncolors_code {code : Text} (among : code ∈ colorCodes) : Uncolors code [] := by
  intro rest
  simp only [colorCodes, List.mem_cons, List.not_mem_nil, or_false] at among
  rcases among with rfl | rfl | rfl | rfl | rfl
  all_goals rfl

theorem uncolors_self (plain : Terminal.escape ∉ t) : Uncolors t t := by
  intro rest
  induction t with
  | nil => rfl
  | cons c t ih =>
      obtain ⟨other, plain⟩ := not_or.mp (mt List.mem_cons.mpr plain)
      rw [List.cons_append, decolor_cons, ih plain, List.cons_append]
      intro code among begins
      rw [(colorCodes_escape code among).1] at begins
      exact other (List.cons_prefix_cons.mp begins).1

theorem prefix_crosses {code rest : Text} {c d : CodePoint} (begins : code <+: d :: t ++ c :: rest) :
    code <+: d :: t ∨ c ∈ code.tail := by
  rcases List.prefix_or_prefix_of_prefix begins (List.prefix_append (d :: t) (c :: rest)) with
    within | ⟨behind, rfl⟩
  · exact Or.inl within
  · cases behind with
    | nil =>
        rw [List.append_nil]
        exact Or.inl (List.prefix_refl _)
    | cons e behind =>
        have crossing := (List.prefix_append_right_inj (d :: t)).mp begins
        obtain ⟨rfl, -⟩ := List.cons_prefix_cons.mp crossing
        exact Or.inr (List.mem_append_right t List.mem_cons_self)

theorem decolor_append (colorless : Colorless t) {c : CodePoint} (stops : c ∈ closers) (rest : Text) :
    decolor (t ++ c :: rest) = t ++ decolor (c :: rest) := by
  induction t with
  | nil => rfl
  | cons d t ih =>
      have inner : Colorless t := fun code among within =>
        colorless code among (within.trans (List.suffix_cons d t).isInfix)
      rw [List.cons_append, decolor_cons, ih inner, List.cons_append]
      intro code among begins
      rcases prefix_crosses begins with within | inside
      · exact colorless code among within.isInfix
      · exact (colorCodes_escape code among).2 c stops inside

theorem uncolors_closed (colorless : Colorless t) {c : CodePoint} (stops : c ∈ closers)
    (other : c ≠ Terminal.escape) : Uncolors (t ++ [c]) (t ++ [c]) := by
  intro rest
  have kept : decolor ([c] ++ rest) = [c] ++ decolor rest :=
    uncolors_self (fun member => other (List.mem_singleton.mp member).symm) rest
  rw [List.append_assoc, List.append_assoc, ← kept]
  exact decolor_append colorless stops rest

theorem paint_code (color : Color) : color.escape ∈ colorCodes := by
  cases color <;> decide

theorem uncolors_paint (color : Color) (colorless : Colorless t) (bright : style.color = true) :
    Uncolors (paint style color t) t := by
  intro rest
  have ends : decolor (colorEnd ++ rest) = decolor rest := uncolors_code (by decide) rest
  have bare : decolor (t ++ (colorEnd ++ rest)) = t ++ decolor (colorEnd ++ rest) :=
    decolor_append colorless (by decide) _
  rw [paint, if_pos bright, List.append_assoc, List.append_assoc,
    uncolors_code (paint_code color), List.nil_append, bare, ends]

end

end Console

end FenceCheck

import FenceCheck.Proofs.LineText
import FenceCheck.Proofs.NumberText
import FenceCheck.Document.Block
import Mathlib.Data.List.Basic

/-!
Paths and places as they are written. No name in a path holds a slash, so a relative path is read back
from its text. A line number holds no colon, so a place is known by its last colon, whatever colons
and digits are in the name.
-/

namespace FenceCheck

namespace Text

variable {mark : CodePoint}

theorem splitAt_append (front rest : Text) :
    splitAt mark (front ++ mark :: rest) = splitAt mark front ++ splitAt mark rest := by
  induction front with
  | nil =>
      have first : splitAt mark (mark :: rest) = [] :: splitAt mark rest := by
        rw [splitAt, if_pos rfl]
      exact first
  | cons c front ih =>
      obtain ⟨first, more, pieces⟩ := List.exists_cons_of_ne_nil (splitAt_nonempty mark front)
      rw [List.cons_append, splitAt, splitAt, ih, pieces]
      split
      · rfl
      · rfl

theorem splitAt_piece {piece : Text} (free : mark ∉ piece) (rest : Text) :
    splitAt mark (piece ++ mark :: rest) = piece :: splitAt mark rest := by
  rw [splitAt_append, splitAt_whole free, List.singleton_append]

theorem splitAt_join {pieces : List Text} (some : pieces ≠ [])
    (free : ∀ piece ∈ pieces, mark ∉ piece) : splitAt mark (join [mark] pieces) = pieces := by
  induction pieces with
  | nil => exact absurd rfl some
  | cons piece rest ih =>
      obtain ⟨here, later⟩ := List.forall_mem_cons.mp free
      cases rest with
      | nil => exact splitAt_whole here
      | cons next rest =>
          have cut := splitAt_piece here (join [mark] (next :: rest))
          rw [ih (List.cons_ne_nil _ _) later] at cut
          rw [join, List.append_assoc]
          · exact cut
          · exact List.cons_ne_nil _ _

theorem mem_join {separator : Text} {pieces : List Text} {c : CodePoint}
    (member : c ∈ join separator pieces) : c ∈ separator ∨ ∃ piece ∈ pieces, c ∈ piece := by
  induction pieces with
  | nil => cases member
  | cons piece rest ih =>
      cases rest with
      | nil => exact Or.inr ⟨piece, List.mem_cons_self, member⟩
      | cons next rest =>
          rw [join, List.mem_append, List.mem_append] at member
          · rcases member with (here | between) | later
            · exact Or.inr ⟨piece, List.mem_cons_self, here⟩
            · exact Or.inl between
            · refine (ih later).imp_right ?_
              rintro ⟨other, inside, found⟩
              exact ⟨other, List.mem_cons_of_mem _ inside, found⟩
          · exact List.cons_ne_nil _ _

theorem mem_join_piece {separator piece : Text} {pieces : List Text} {c : CodePoint}
    (listed : piece ∈ pieces) (inside : c ∈ piece) : c ∈ join separator pieces := by
  induction pieces with
  | nil => cases listed
  | cons first rest ih =>
      cases rest with
      | nil => exact List.mem_singleton.mp listed ▸ inside
      | cons next rest =>
          rw [join, List.mem_append, List.mem_append]
          · rcases List.mem_cons.mp listed with rfl | later
            · exact Or.inl (Or.inl inside)
            · exact Or.inr (ih later)
          · exact List.cons_ne_nil next rest

end Text

namespace Path

structure IsName (name : Text) : Prop where
  nonempty : name ≠ []
  whole : slash ∉ name
  counts : name ≠ [.char '.']

theorem ofText_names (t : Text) : ∀ name ∈ (ofText t).names, IsName name := by
  intro name member
  obtain ⟨piece, kept⟩ := List.mem_filter.mp member
  simp only [Bool.and_eq_true, Bool.not_eq_true', List.isEmpty_eq_false_iff, decide_eq_true_eq] at kept
  exact ⟨kept.1, Text.splitAt_free piece, kept.2⟩

theorem leadingSlashes_name {name : Text} (proper : IsName name) (rest : Text) :
    leadingSlashes (name ++ rest) = 0 := by
  obtain ⟨c, more, rfl⟩ := List.exists_cons_of_ne_nil proper.nonempty
  have other : c ≠ slash := fun same => proper.whole (same ▸ List.mem_cons_self)
  simp [leadingSlashes, other]

theorem ofText_toText {names : List Text} (proper : ∀ name ∈ names, IsName name) :
    ofText (toText ⟨[], names⟩) = ⟨[], names⟩ := by
  cases names with
  | nil => rfl
  | cons first rest =>
      have text : toText ⟨[], first :: rest⟩ = Text.join [slash] (first :: rest) := rfl
      have cut := Text.splitAt_join (List.cons_ne_nil first rest) fun name member =>
        (proper name member).whole
      -- A name is not empty and holds no slash.
      have relative : leadingSlashes (Text.join [slash] (first :: rest)) = 0 := by
        have head := (List.forall_mem_cons.mp proper).1
        cases rest with
        | nil =>
            have alone := leadingSlashes_name head []
            rwa [List.append_nil] at alone
        | cons next rest =>
            rw [Text.join, List.append_assoc]
            · exact leadingSlashes_name head _
            · exact List.cons_ne_nil _ _
      have kept : (first :: rest).filter (fun name => !name.isEmpty && name ≠ [.char '.']) =
          first :: rest := by
        rw [List.filter_eq_self]
        intro name member
        simp [(proper name member).nonempty, (proper name member).counts]
      rw [text, ofText, cut, relative, kept]
      rfl

theorem append_relative (base : Path) (names : List Text) :
    base ++ (⟨[], names⟩ : Path) = { base with names := base.names ++ names } :=
  rfl

theorem relativeTo_below {p base : Path} {names : List Text} (root : p.root = base.root)
    (below : p.names = base.names ++ names) : p.relativeTo? base = some ⟨[], names⟩ := by
  have start : base.names.isPrefixOf p.names = true := by
    rw [below]
    exact List.isPrefixOf_iff_prefix.mpr (List.prefix_append _ _)
  rw [relativeTo?, if_pos ⟨root, start⟩, below, List.drop_left]

end Path

theorem placeText_inj {name other : Text} {line number : Int} :
    placeText name line = placeText other number ↔ name = other ∧ line = number := by
  constructor
  · intro same
    have plain (n : Int) : .char ':' ∉ (Text.ofInt n).reverse := by
      intro member
      have absent := (Number.written_ofInt n).none (p := (· = .char ':')) (by decide) _
        (List.mem_reverse.mp member)
      cases absent
    have mirrored := congrArg List.reverse same
    simp only [placeText, List.reverse_append, List.reverse_cons, List.append_assoc,
      List.singleton_append] at mirrored
    have cut := congrArg (Text.splitAt (.char ':')) mirrored
    rw [Text.splitAt_piece (plain line), Text.splitAt_piece (plain number)] at cut
    have numbers := (List.cons.inj cut).1
    rw [numbers] at mirrored
    have names := (List.cons.inj (List.append_cancel_left mirrored)).2
    exact ⟨List.reverse_injective names, Text.ofInt_inj.mp (List.reverse_injective numbers)⟩
  · rintro ⟨rfl, rfl⟩
    rfl

end FenceCheck

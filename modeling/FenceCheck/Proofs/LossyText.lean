import FenceCheck.Document.Walk
import FenceCheck.Proofs.LineText
import Mathlib.Tactic.SplitIfs

/-!
The text of a file that may not be UTF-8. The lossy reader is a machine that takes a byte at a time, and a
byte of ASCII always ends what was begun before it. So lines can be cut before or after decoding, and a
decoded line opens with a mark of ASCII exactly where its bytes do.
-/

namespace FenceCheck

namespace Utf8

variable {part : Partial} {state : Option Partial} {b : UInt8} {bytes front rest : List UInt8}

def Piece.shown : Piece → CodePoint
  | scalar c => .char c
  | malformed _ => .replacement

def opened (b : UInt8) : Text × Option Partial :=
  match start b with
  | .complete c => ([.char c], none)
  | .begun part => ([], some part)
  | .invalid => ([.replacement], none)

/-- The number that a begun character comes to with one more byte. -/
def Partial.joined (part : Partial) (b : UInt8) : Nat := part.value * 64 + (b.toNat - 0x80)

/-- What is written at a byte, and what is begun after it. -/
def taken : Option Partial → UInt8 → Text × Option Partial
  | none, b => opened b
  | some part, b =>
      if part.low ≤ b ∧ b ≤ part.high then
        if part.needed ≤ 1 then ([.char (Char.ofNat (part.joined b))], none)
        else ([], some ⟨part.bytes ++ [b], part.needed - 1, 0x80, 0xBF, part.joined b⟩)
      else (.replacement :: (opened b).1, (opened b).2)

/-- What is written for bytes behind what was begun before them. -/
def lossyFrom : Option Partial → List UInt8 → Text
  | none, [] => []
  | some _, [] => [.replacement]
  | state, b :: rest => (taken state b).1 ++ lossyFrom (taken state b).2 rest

theorem shown_pieces (position : Nat) (state : Option Partial) (bytes : List UInt8) :
    (piecesFrom position state bytes).map Piece.shown = lossyFrom state bytes := by
  induction bytes generalizing position state with
  | nil => cases state <;> rfl
  | cons b rest ih =>
      rw [lossyFrom]
      cases state with
      | none =>
          rw [piecesFrom, taken, opened]
          cases start b <;> simp [ih, Piece.shown]
      | some part =>
          rw [piecesFrom, taken, opened]
          by_cases fits : part.low ≤ b ∧ b ≤ part.high
          · rw [if_pos fits, if_pos fits]
            by_cases last : part.needed ≤ 1
            · rw [if_pos last, if_pos last, List.map_cons, ih]
              rfl
            · rw [if_neg last, if_neg last, ih]
              rfl
          · rw [if_neg fits, if_neg fits]
            cases start b <;> simp [ih, Piece.shown]

theorem decodeLossy_from (bytes : List UInt8) : decodeLossy bytes = lossyFrom none bytes := by
  rw [← shown_pieces 0, decodeLossy, pieces]
  refine List.map_congr_left fun piece _ => ?_
  cases piece <;> rfl

/-! A byte of ASCII is written as itself, and no other byte is ever written as one. -/

def ascii (b : UInt8) : CodePoint := .char (Char.ofNat b.toNat)

/-- A code point that no byte of ASCII but the null is written as. -/
def Foreign (c : CodePoint) : Prop := c.val = 0 ∨ 0x80 ≤ c.val

/-- A begun character, of which the next byte is no ASCII and that comes to no ASCII. The least number
it can come to with one more byte says so. -/
structure Partial.Sound (part : Partial) : Prop where
  high : 0x80 ≤ part.low
  begun : 2 ≤ part.joined part.low
  final : part.needed ≤ 1 → 0x80 ≤ part.joined part.low

def Sound (state : Option Partial) : Prop := ∀ part ∈ state, part.Sound

theorem sound_none : Sound none := fun _ member => nomatch member

theorem sound_some (sound : part.Sound) : Sound (some part) := by
  rintro _ ⟨⟩
  exact sound

theorem joined_mono (low : part.low ≤ b) : part.joined part.low ≤ part.joined b := by
  have order := UInt8.le_iff_toNat_le.mp low
  unfold Partial.joined
  omega

def Start.part? : Start → Option Partial
  | begun part => some part
  | _ => none

theorem start_ascii (low : b < 0x80) : start b = .complete (Char.ofNat b.toNat) := if_pos low

theorem start_past (past : ¬ b < 0x80) (c : Char) : start b ≠ .complete c := by
  rw [start, if_neg past]
  split_ifs <;> exact nofun

theorem start_begun (begins : start b = .begun part) : part.Sound := by
  have each : ∀ n : Fin 256, ∀ part ∈ (start (UInt8.ofNat n.val)).part?,
      0x80 ≤ part.low ∧ 2 ≤ part.joined part.low ∧
        (part.needed ≤ 1 → 0x80 ≤ part.joined part.low) := by
    decide +kernel
  have here := each ⟨b.toNat, b.toNat_lt⟩ part
  rw [UInt8.ofNat_toNat, begins] at here
  obtain ⟨high, begun, final⟩ := here rfl
  exact ⟨high, begun, final⟩

theorem opened_ascii (low : b < 0x80) : opened b = ([ascii b], none) := by
  rw [opened, start_ascii low]
  rfl

theorem foreign_replacement : Foreign .replacement := Or.inr (by decide)

theorem foreign_ofNat {n : Nat} (past : 0x80 ≤ n) : Foreign (.char (Char.ofNat n)) := by
  by_cases valid : n.isValidChar
  · right
    rw [Char.ofNat, dif_pos valid]
    exact past
  · left
    rw [Char.ofNat, dif_neg valid]
    rfl

theorem opened_past (past : ¬ b < 0x80) :
    opened b = ([.replacement], none) ∨ ∃ part : Partial, part.Sound ∧ opened b = ([], some part) := by
  rw [opened]
  cases begins : start b with
  | complete c => exact absurd begins (start_past past c)
  | invalid => exact Or.inl rfl
  | begun part => exact Or.inr ⟨part, start_begun begins, rfl⟩

theorem sound_next {value : Nat} (large : 2 ≤ value) (bytes : List UInt8) (needed : Nat) :
    (Partial.mk bytes needed 0x80 0xBF value).Sound := by
  have least : (Partial.mk bytes needed 0x80 0xBF value).joined 0x80 = value * 64 := rfl
  refine ⟨UInt8.le_refl _, ?_, fun _ => ?_⟩
  · rw [least]
    omega
  · rw [least]
    omega

theorem taken_ascii (sound : Sound state) (low : b < 0x80) :
    taken state b = (lossyFrom state [] ++ [ascii b], none) := by
  cases state with
  | none => exact opened_ascii low
  | some part =>
      have apart : ¬ (part.low ≤ b ∧ b ≤ part.high) := by
        have high := (sound part rfl).high
        rw [UInt8.le_iff_toNat_le] at high ⊢
        rw [UInt8.lt_iff_toNat_lt] at low
        omega
      rw [taken, if_neg apart, opened_ascii low]
      rfl

/-- What a byte past ASCII does: nothing of ASCII is written, and something is written or begun. -/
structure Moves (output : Text) (next : Option Partial) : Prop where
  foreign : ∀ c ∈ output, Foreign c
  sound : Sound next
  progress : output = [] → next.isSome = true

theorem moves_opened (past : ¬ b < 0x80) : Moves (opened b).1 (opened b).2 := by
  rcases opened_past past with malformed | ⟨part, sound, begun⟩
  · rw [malformed]
    exact ⟨List.forall_mem_singleton.mpr foreign_replacement, sound_none, nofun⟩
  · rw [begun]
    exact ⟨List.forall_mem_nil _, sound_some sound, fun _ => rfl⟩

theorem moves_taken (sound : Sound state) (past : ¬ b < 0x80) :
    Moves (taken state b).1 (taken state b).2 := by
  cases state with
  | none => exact moves_opened past
  | some part =>
      obtain ⟨high, begun, final⟩ := sound part rfl
      rw [taken]
      split_ifs with fits last
      · have past := Nat.le_trans (final last) (joined_mono fits.1)
        exact ⟨List.forall_mem_singleton.mpr (foreign_ofNat past), sound_none, nofun⟩
      · exact ⟨List.forall_mem_nil _, sound_some (sound_next (Nat.le_trans begun (joined_mono fits.1)) _ _),
          fun _ => rfl⟩
      · obtain ⟨foreign, sound, -⟩ := moves_opened past
        exact ⟨List.forall_mem_cons.mpr ⟨foreign_replacement, foreign⟩, sound, nofun⟩

theorem lossyFrom_cons (state : Option Partial) (b : UInt8) (rest : List UInt8) :
    lossyFrom state (b :: rest) = (taken state b).1 ++ lossyFrom (taken state b).2 rest := by
  cases state <;> rfl

theorem lossyFrom_ascii (sound : Sound state) (low : b < 0x80) (rest : List UInt8) :
    lossyFrom state (b :: rest) = lossyFrom state [] ++ ascii b :: lossyFrom none rest := by
  rw [lossyFrom_cons, taken_ascii sound low, List.append_assoc, List.singleton_append]

theorem lossyFrom_begun (sound : part.Sound) (bytes : List UInt8) :
    ∃ c more, lossyFrom (some part) bytes = c :: more ∧ Foreign c := by
  induction bytes generalizing part with
  | nil => exact ⟨_, [], rfl, foreign_replacement⟩
  | cons b rest ih =>
      by_cases low : b < 0x80
      · rw [lossyFrom_ascii (sound_some sound) low]
        exact ⟨_, _, rfl, foreign_replacement⟩
      · obtain ⟨foreign, next, progress⟩ := moves_taken (sound_some sound) low
        rw [lossyFrom_cons]
        cases output : (taken (some part) b).1 with
        | cons c more =>
            rw [output] at foreign
            exact ⟨c, _, rfl, foreign c List.mem_cons_self⟩
        | nil =>
            obtain ⟨begun, same⟩ := Option.isSome_iff_exists.mp (progress output)
            rw [same]
            exact ih (next begun same)

theorem decodeLossy_nil : decodeLossy [] = [] := rfl

theorem decodeLossy_ascii (low : b < 0x80) (rest : List UInt8) :
    decodeLossy (b :: rest) = ascii b :: decodeLossy rest := by
  rw [decodeLossy_from, lossyFrom_ascii sound_none low, ← decodeLossy_from, ← decodeLossy_from]
  rfl

theorem decodeLossy_past (past : ¬ b < 0x80) (rest : List UInt8) :
    ∃ c more, decodeLossy (b :: rest) = c :: more ∧ Foreign c := by
  rw [decodeLossy_from, lossyFrom_cons, taken]
  rcases opened_past past with malformed | ⟨part, sound, begun⟩
  · rw [malformed]
    exact ⟨_, _, rfl, foreign_replacement⟩
  · rw [begun]
    exact lossyFrom_begun sound rest

theorem ascii_val (low : b < 0x80) : (ascii b).val = b.toNat := by
  have bound := UInt8.lt_iff_toNat_lt.mp low
  have valid : b.toNat.isValidChar := Or.inl (Nat.lt_trans bound (by decide))
  rw [ascii, Char.ofNat, dif_pos valid]
  rfl

theorem ascii_inj {first : UInt8} (low : b < 0x80) (other : first < 0x80) :
    ascii b = ascii first ↔ b = first := by
  constructor
  · intro same
    rw [← UInt8.toNat_inj, ← ascii_val low, ← ascii_val other, same]
  · rintro rfl
    rfl

theorem ascii_apart (some : 0 < b) (low : b < 0x80) {c : CodePoint} (foreign : Foreign c) :
    ascii b ≠ c := by
  rintro rfl
  have least := UInt8.lt_iff_toNat_lt.mp some
  have most := UInt8.lt_iff_toNat_lt.mp low
  rw [Foreign, ascii_val low] at foreign
  rcases foreign with null | past
  · exact absurd null (Nat.ne_of_gt least)
  · exact absurd past (Nat.not_le.mpr most)

/-- Marks of ASCII other than the null stand at the start of a text where they start its bytes. -/
theorem ascii_begins {mark : List UInt8} (plain : ∀ b ∈ mark, 0 < b ∧ b < 0x80)
    (bytes : List UInt8) : mark.map ascii <+: decodeLossy bytes ↔ mark <+: bytes := by
  induction mark generalizing bytes with
  | nil => simp
  | cons b mark ih =>
      obtain ⟨⟨some, low⟩, others⟩ := List.forall_mem_cons.mp plain
      cases bytes with
      | nil => simp [decodeLossy_nil]
      | cons first rest =>
          by_cases other : first < 0x80
          · rw [decodeLossy_ascii other, List.map_cons, List.cons_prefix_cons, List.cons_prefix_cons,
              ih others, ascii_inj low other]
          · obtain ⟨c, more, written, foreign⟩ := decodeLossy_past other rest
            rw [written, List.map_cons, List.cons_prefix_cons, List.cons_prefix_cons]
            refine iff_of_false (fun here => ascii_apart some low foreign here.1) ?_
            rintro ⟨rfl, -⟩
            exact other low

end Utf8

namespace Text

variable {front rest : Text}

theorem universalNewlines_other {c : CodePoint} (other : c ≠ .char '\r') (rest : Text) :
    universalNewlines (c :: rest) = c :: universalNewlines rest := by
  rw [universalNewlines, if_neg other]
  intro _ same
  exact absurd same other

theorem universalNewlines_append (free : .char '\r' ∉ front) (rest : Text) :
    universalNewlines (front ++ rest) = front ++ universalNewlines rest := by
  induction front with
  | nil => rfl
  | cons c front ih =>
      obtain ⟨other, later⟩ := not_or.mp (mt List.mem_cons.mpr free)
      rw [List.cons_append, universalNewlines_other (Ne.symm other), ih later]
      rfl

theorem universalNewlines_return (lone : rest.head? ≠ some (.char '\n')) :
    universalNewlines (.char '\r' :: rest) = .char '\n' :: universalNewlines rest := by
  rw [universalNewlines]
  · rfl
  · rintro more - rfl
    exact lone rfl

theorem newlineSplit_feed (rest : Text) :
    newlineSplit (.char '\n' :: rest) = [] :: newlineSplit rest := by
  rw [newlineSplit, splitAt, if_pos rfl]
  rfl

theorem newlineSplit_append (free : .char '\n' ∉ front) (rest : Text) :
    newlineSplit (front ++ rest) = (newlineSplit rest).modifyHead (front ++ ·) := by
  induction front with
  | nil =>
      obtain ⟨first, more, pieces⟩ := List.exists_cons_of_ne_nil (splitAt_nonempty (.char '\n') rest)
      rw [newlineSplit, newlineSplit, List.nil_append, pieces]
      rfl
  | cons c front ih =>
      obtain ⟨other, later⟩ := not_or.mp (mt List.mem_cons.mpr free)
      have cut := ih later
      rw [newlineSplit] at cut ⊢
      rw [List.cons_append, splitAt, if_neg (Ne.symm other), cut, List.modifyHead_modifyHead]
      rfl

end Text

namespace Document

open Utf8

/-- The lines of a file by its bytes: `\n`, `\r\n` and a lone `\r` end one. -/
def byteLines : List UInt8 → List (List UInt8)
  | [] => [[]]
  | 0x0D :: 0x0A :: rest => [] :: byteLines rest
  | b :: rest =>
      if b = 0x0A ∨ b = 0x0D then [] :: byteLines rest
      else (byteLines rest).modifyHead (b :: ·)

theorem byteLines_nonempty (bytes : List UInt8) : byteLines bytes ≠ [] := by
  induction bytes using byteLines.induct with
  | case1 | case2 => simp [byteLines]
  | case3 b rest apart ends ih =>
      rw [byteLines, if_pos ends]
      · exact List.cons_ne_nil _ _
      · exact apart
  | case4 b rest apart goes ih =>
      rw [byteLines, if_neg goes]
      · rwa [Ne, List.modifyHead_eq_nil_iff]
      · exact apart

def decodedFrom (state : Option Partial) : List (List UInt8) → List Text
  | [] => []
  | first :: more => lossyFrom state first :: more.map decodeLossy

theorem decodedFrom_none (lines : List (List UInt8)) :
    decodedFrom none lines = lines.map decodeLossy := by
  cases lines with
  | nil => rfl
  | cons first more => rw [decodedFrom, ← decodeLossy_from, List.map_cons]

theorem decodedFrom_cons (state : Option Partial) (b : UInt8) {lines : List (List UInt8)}
    (some : lines ≠ []) :
    decodedFrom state (lines.modifyHead (b :: ·)) =
      (decodedFrom (taken state b).2 lines).modifyHead ((taken state b).1 ++ ·) := by
  obtain ⟨first, more, rfl⟩ := List.exists_cons_of_ne_nil some
  rw [List.modifyHead_cons, decodedFrom, decodedFrom, lossyFrom_cons]
  rfl

theorem feed_ascii : ascii 0x0A = .char '\n' := rfl

theorem return_ascii : ascii 0x0D = .char '\r' := rfl

theorem foreign_end {c : CodePoint} (foreign : Foreign c) : c ≠ .char '\r' ∧ c ≠ .char '\n' :=
  ⟨(ascii_apart (b := 0x0D) (by decide) (by decide) foreign).symm,
    (ascii_apart (b := 0x0A) (by decide) (by decide) foreign).symm⟩

theorem lossyFrom_rest {state : Option Partial} {c : CodePoint} (member : c ∈ lossyFrom state []) :
    c ≠ .char '\r' ∧ c ≠ .char '\n' := by
  cases state with
  | none => cases member
  | some part =>
      cases List.mem_singleton.mp member
      decide

theorem taken_end {state : Option Partial} (sound : Sound state) {b : UInt8}
    (plain : ¬ (b = 0x0A ∨ b = 0x0D)) {c : CodePoint} (member : c ∈ (taken state b).1) :
    c ≠ .char '\r' ∧ c ≠ .char '\n' := by
  by_cases low : b < 0x80
  · rw [taken_ascii sound low] at member
    rcases List.mem_append.mp member with left | self
    · exact lossyFrom_rest left
    · cases List.mem_singleton.mp self
      rw [← return_ascii, ← feed_ascii, Ne, Ne, ascii_inj low (by decide),
        ascii_inj low (by decide)]
      exact ⟨fun same => plain (Or.inr same), fun same => plain (Or.inl same)⟩
  · exact foreign_end ((moves_taken sound low).foreign c member)

theorem taken_sound {state : Option Partial} (sound : Sound state) (b : UInt8) :
    Sound (taken state b).2 := by
  by_cases low : b < 0x80
  · rw [taken_ascii sound low]
    exact sound_none
  · exact (moves_taken sound low).sound

theorem lone_return {rest : List UInt8} (lone : rest.head? ≠ some 0x0A) :
    (decodeLossy rest).head? ≠ some (.char '\n') := by
  intro feed
  have ascii : ∀ b ∈ [(0x0A : UInt8)], 0 < b ∧ b < 0x80 := by decide +kernel
  have first : [.char '\n'] <+: decodeLossy rest := by
    obtain ⟨more, whole⟩ := List.head?_eq_some_iff.mp feed
    rw [whole]
    exact List.prefix_append _ _
  obtain ⟨more, whole⟩ := (ascii_begins ascii rest).mp first
  exact lone (whole ▸ rfl)

theorem split_end (state : Option Partial) {t : Text} (rest : Text)
    (ended : Text.universalNewlines t = .char '\n' :: Text.universalNewlines rest) :
    Text.newlineSplit (Text.universalNewlines (lossyFrom state [] ++ t)) =
      lossyFrom state [] :: Text.newlineSplit (Text.universalNewlines rest) := by
  rw [Text.universalNewlines_append fun member => (lossyFrom_rest member).1 rfl, ended,
    Text.newlineSplit_append fun member => (lossyFrom_rest member).2 rfl, Text.newlineSplit_feed,
    List.modifyHead_cons, List.append_nil]

/-- Lines can be cut before or after decoding. -/
theorem split_lossyFrom {state : Option Partial} (sound : Sound state) (bytes : List UInt8) :
    Text.newlineSplit (Text.universalNewlines (lossyFrom state bytes)) =
      decodedFrom state (byteLines bytes) := by
  -- A line may end within a character that is cut off, so the state is left open.
  induction bytes using byteLines.induct generalizing state with
  | case1 =>
      rw [← List.append_nil (lossyFrom state []),
        Text.universalNewlines_append fun member => (lossyFrom_rest member).1 rfl,
        Text.newlineSplit_append fun member => (lossyFrom_rest member).2 rfl]
      exact congrArg (· :: []) (List.append_nil _)
  | case2 rest ih =>
      have pair : lossyFrom none (0x0A :: rest) = .char '\n' :: lossyFrom none rest :=
        lossyFrom_ascii sound_none (by decide) rest
      rw [lossyFrom_ascii sound (by decide), return_ascii, pair,
        split_end state (lossyFrom none rest) rfl, ih sound_none, decodedFrom_none]
      rfl
  | case3 b rest apart ends ih =>
      have ended : Text.universalNewlines (ascii b :: lossyFrom none rest) =
          .char '\n' :: Text.universalNewlines (lossyFrom none rest) := by
        rcases ends with rfl | rfl
        · exact Text.universalNewlines_other (by decide) _
        · refine Text.universalNewlines_return ?_
          rw [← decodeLossy_from]
          refine lone_return fun feed => ?_
          obtain ⟨more, rfl⟩ := List.head?_eq_some_iff.mp feed
          exact apart more rfl rfl
      have low : b < 0x80 := by rcases ends with rfl | rfl <;> decide
      rw [lossyFrom_ascii sound low, split_end state _ ended, ih sound_none, decodedFrom_none, byteLines,
        if_pos ends]
      · rfl
      · exact apart
  | case4 b rest apart goes ih =>
      -- What a byte adds ends no line unless the byte does.
      have free : .char '\r' ∉ (taken state b).1 ∧ .char '\n' ∉ (taken state b).1 :=
        ⟨fun member => (taken_end sound goes member).1 rfl,
          fun member => (taken_end sound goes member).2 rfl⟩
      rw [lossyFrom_cons, Text.universalNewlines_append free.1, Text.newlineSplit_append free.2,
        ih (taken_sound sound b), byteLines, if_neg goes,
        decodedFrom_cons state b (byteLines_nonempty rest)]
      exact apart

/-- The lines of a document are its byte lines, each decoded by itself. -/
theorem split_textOf (bytes : List UInt8) :
    Text.newlineSplit (textOf bytes) = (byteLines bytes).map decodeLossy := by
  rw [textOf, decodeLossy_from, split_lossyFrom sound_none, decodedFrom_none]

end Document

end FenceCheck

import FenceCheck.Proofs.JsonText
import FenceCheck.Proofs.LossyText

/-!
Text written in UTF-8 is read back. A text has such a form unless one half of a character stands alone
in it, and the reader finds each character in the bytes that were written for it.
-/

namespace FenceCheck

namespace Utf8

variable {bytes rest : List UInt8} {part : Partial} {n : Nat}

theorem toList_loop (bytes : ByteArray) (index : Nat) (read : List UInt8) :
    ByteArray.toList.loop bytes index read = read.reverse ++ bytes.data.toList.drop index := by
  fun_induction ByteArray.toList.loop bytes index read with
  | case1 index read inside ih =>
      have bound : index < bytes.data.toList.length := by simpa using inside
      rw [ih, List.drop_eq_getElem_cons bound]
      simp [ByteArray.get!, inside]
  | case2 index read outside =>
      rw [List.drop_eq_nil_of_le (by simpa using Nat.le_of_not_lt outside)]
      simp

theorem encodeChar_bytes (c : Char) : encodeChar c = String.utf8EncodeChar c := by
  rw [encodeChar, String.toUTF8_eq_toByteArray, String.toByteArray_singleton, ByteArray.toList,
    toList_loop]
  simp [List.utf8Encode]

/-! Leading bytes, by the bits of the character that they carry. -/

theorem start_two : ∀ n < 32, 2 ≤ n → start (UInt8.ofNat (n + 192)) =
    .begun ⟨[UInt8.ofNat (n + 192)], 1, 0x80, 0xBF, n⟩ := by
  decide

theorem start_three : ∀ n < 16, ∃ low high : UInt8,
    start (UInt8.ofNat (n + 224)) = .begun ⟨[UInt8.ofNat (n + 224)], 2, low, high, n⟩ ∧
      low.toNat = (if n = 0 then 0xA0 else 0x80) ∧ high.toNat = (if n = 13 then 0x9F else 0xBF) := by
  have begun : ∀ n < 16, start (UInt8.ofNat (n + 224)) = .begun ⟨[UInt8.ofNat (n + 224)], 2,
      if n = 0 then 0xA0 else 0x80, if n = 13 then 0x9F else 0xBF, n⟩ := by decide
  exact fun n few => ⟨_, _, begun n few, by split <;> rfl, by split <;> rfl⟩

theorem start_four : ∀ n < 5, ∃ low high : UInt8,
    start (UInt8.ofNat (n + 240)) = .begun ⟨[UInt8.ofNat (n + 240)], 3, low, high, n⟩ ∧
      low.toNat = (if n = 0 then 0x90 else 0x80) ∧ high.toNat = (if n = 4 then 0x8F else 0xBF) := by
  have begun : ∀ n < 5, start (UInt8.ofNat (n + 240)) = .begun ⟨[UInt8.ofNat (n + 240)], 3,
      if n = 0 then 0x90 else 0x80, if n = 4 then 0x8F else 0xBF, n⟩ := by decide
  exact fun n few => ⟨_, _, begun n few, by split <;> rfl, by split <;> rfl⟩

theorem piecesFrom_begun {b : UInt8} (position : Nat) (begins : start b = .begun part) :
    piecesFrom position none (b :: rest) = piecesFrom (position + 1) (some part) rest := by
  rw [piecesFrom, begins]

/-- A byte between the bounds adds six bits to a character. -/
theorem piecesFrom_next (position : Nat) (few : n < 64) (low : part.low.toNat ≤ n + 128)
    (high : n + 128 ≤ part.high.toNat) :
    piecesFrom position (some part) (UInt8.ofNat (n + 128) :: rest) =
      if part.needed ≤ 1 then
        .scalar (Char.ofNat (part.value * 64 + n)) :: piecesFrom (position + 1) none rest
      else
        piecesFrom (position + 1) (some ⟨part.bytes ++ [UInt8.ofNat (n + 128)], part.needed - 1, 0x80,
          0xBF, part.value * 64 + n⟩) rest := by
  have value : (UInt8.ofNat (n + 128)).toNat = n + 128 := by
    rw [UInt8.toNat_ofNat', Nat.mod_eq_of_lt (by omega)]
  have within : part.low ≤ UInt8.ofNat (n + 128) ∧ UInt8.ofNat (n + 128) ≤ part.high := by
    rw [UInt8.le_iff_toNat_le, UInt8.le_iff_toNat_le, value]
    exact ⟨low, high⟩
  rw [piecesFrom, if_pos within, value, Nat.add_sub_cancel]

theorem char_bound (c : Char) : c.toNat < 0x110000 := by
  rcases c.valid with low | ⟨-, high⟩
  · exact Nat.lt_trans low (by decide)
  · exact high

theorem ofNat_join (c : Char) (high : Nat) (joined : high * 64 + c.toNat % 64 = c.toNat) :
    Char.ofNat (high * 64 + c.toNat % 64) = c := by
  rw [joined, Char.ofNat_toNat]

theorem pieces_two {c : Char} (past : 0x80 ≤ c.toNat) (below : c.toNat < 0x800) (position : Nat)
    (rest : List UInt8) :
    piecesFrom position none (UInt8.ofNat (c.toNat / 64 % 32 + 192) ::
      UInt8.ofNat (c.toNat % 64 + 128) :: rest) = .scalar c :: piecesFrom (position + 2) none rest := by
  rw [piecesFrom_begun _ (start_two _ (by omega) (by omega)),
    piecesFrom_next _ (by omega) (Nat.le_add_left _ _) (by change _ ≤ 191; omega)]
  simp only [Nat.le_refl, if_true]
  rw [ofNat_join c _ (by omega)]

theorem pieces_three {c : Char} (past : 0x800 ≤ c.toNat) (below : c.toNat < 0x10000) (position : Nat)
    (rest : List UInt8) :
    piecesFrom position none (UInt8.ofNat (c.toNat / 4096 % 16 + 224) ::
      UInt8.ofNat (c.toNat / 64 % 64 + 128) :: UInt8.ofNat (c.toNat % 64 + 128) :: rest) =
      .scalar c :: piecesFrom (position + 3) none rest := by
  have valid := Json.char_val_valid c
  obtain ⟨low, high, begins, least, most⟩ := start_three (c.toNat / 4096 % 16) (by omega)
  have first : low.toNat ≤ c.toNat / 64 % 64 + 128 := by rw [least]; split <;> omega
  have last : c.toNat / 64 % 64 + 128 ≤ high.toNat := by rw [most]; split <;> omega
  rw [piecesFrom_begun _ begins, piecesFrom_next _ (by omega) first last]
  simp only [Nat.reduceLeDiff, if_false]
  rw [piecesFrom_next _ (by omega) (Nat.le_add_left _ _) (by change _ ≤ 191; omega)]
  simp only [Nat.reduceSub, Nat.le_refl, if_true]
  rw [ofNat_join c _ (by omega)]

theorem pieces_four {c : Char} (past : 0x10000 ≤ c.toNat) (position : Nat) (rest : List UInt8) :
    piecesFrom position none (UInt8.ofNat (c.toNat / 262144 % 8 + 240) ::
      UInt8.ofNat (c.toNat / 4096 % 64 + 128) :: UInt8.ofNat (c.toNat / 64 % 64 + 128) ::
        UInt8.ofNat (c.toNat % 64 + 128) :: rest) = .scalar c :: piecesFrom (position + 4) none rest := by
  have bound := char_bound c
  obtain ⟨low, high, begins, least, most⟩ := start_four (c.toNat / 262144 % 8) (by omega)
  have first : low.toNat ≤ c.toNat / 4096 % 64 + 128 := by rw [least]; split <;> omega
  have last : c.toNat / 4096 % 64 + 128 ≤ high.toNat := by rw [most]; split <;> omega
  rw [piecesFrom_begun _ begins, piecesFrom_next _ (by omega) first last]
  simp only [Nat.reduceLeDiff, if_false]
  rw [piecesFrom_next _ (by omega) (Nat.le_add_left _ _) (by change _ ≤ 191; omega)]
  simp only [Nat.reduceSub, Nat.reduceLeDiff, if_false]
  rw [piecesFrom_next _ (by omega) (Nat.le_add_left _ _) (by change _ ≤ 191; omega)]
  simp only [Nat.reduceSub, Nat.le_refl, if_true]
  rw [ofNat_join c _ (by omega)]

theorem pieces_one {c : Char} (below : c.toNat < 0x80) (position : Nat) (rest : List UInt8) :
    piecesFrom position none (UInt8.ofNat c.toNat :: rest) =
      .scalar c :: piecesFrom (position + 1) none rest := by
  have value : (UInt8.ofNat c.toNat).toNat = c.toNat := by
    rw [UInt8.toNat_ofNat', Nat.mod_eq_of_lt (by omega)]
  have low : UInt8.ofNat c.toNat < 0x80 := by
    rw [UInt8.lt_iff_toNat_lt, value]
    exact below
  rw [piecesFrom, start_ascii low, value, Char.ofNat_toNat]

theorem piecesFrom_char (c : Char) (position : Nat) (rest : List UInt8) :
    ∃ next, piecesFrom position none (encodeChar c ++ rest) = .scalar c :: piecesFrom next none rest := by
  rw [encodeChar_bytes, String.utf8EncodeChar]
  change ∃ next, piecesFrom position none ((if c.toNat ≤ 127 then _ else if c.toNat ≤ 2047 then _ else
    if c.toNat ≤ 65535 then _ else _) ++ rest) = _
  split_ifs with one two three
  · exact ⟨_, pieces_one (by omega) position rest⟩
  · exact ⟨_, pieces_two (by omega) (by omega) position rest⟩
  · exact ⟨_, pieces_three (by omega) (by omega) position rest⟩
  · exact ⟨_, pieces_four (by omega) position rest⟩

theorem decode_encode {t : Text} (written : encode t = .ok bytes) : decode bytes = .ok t := by
  -- All that matters of the reader is what it makes of a character.
  suffices read : ∀ (reader : Piece → Except Malformed CodePoint),
      (∀ c, reader (.scalar c) = .ok (.char c)) →
        ∀ (t : Text) (position : Nat) (bytes : List UInt8) (next : Nat),
          encodeFrom position t = .ok bytes → (piecesFrom next none bytes).mapM reader = .ok t from
    read _ (fun _ => rfl) t 0 bytes 0 written
  intro reader known t
  induction t with
  | nil =>
      intro position bytes next written
      cases written
      rfl
  | cons c t ih =>
      intro position bytes next written
      cases c with
      | surrogate half => cases written
      | char c =>
          rw [encodeFrom] at written
          cases later : encodeFrom (position + 1) t with
          | error fault =>
              rw [later] at written
              cases written
          | ok others =>
              rw [later] at written
              cases written
              obtain ⟨following, pieces⟩ := piecesFrom_char c next others
              rw [pieces, List.mapM_cons, known, ih _ others following later]
              rfl

/-- A text has bytes exactly if no half of a character stands alone in it. -/
theorem encode_ok {t : Text} :
    (∃ bytes, encode t = .ok bytes) ↔ ∀ half, CodePoint.surrogate half ∉ t := by
  suffices from_any : ∀ (t : Text) (position : Nat),
      (∃ bytes, encodeFrom position t = .ok bytes) ↔ ∀ half, CodePoint.surrogate half ∉ t from
    from_any t 0
  intro t
  induction t with
  | nil => exact fun position => iff_of_true ⟨[], rfl⟩ fun half => List.not_mem_nil
  | cons c t ih =>
      intro position
      cases c with
      | surrogate half => exact iff_of_false nofun fun none => none half List.mem_cons_self
      | char c =>
          simp only [List.mem_cons, reduceCtorEq, false_or]
          rw [← ih (position + 1), encodeFrom]
          cases encodeFrom (position + 1) t <;> simp

end Utf8

end FenceCheck

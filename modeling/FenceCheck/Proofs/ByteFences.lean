import FenceCheck.Proofs.FencePairing
import FenceCheck.Proofs.LossyText
import Mathlib.Data.List.Forall2

/-!
Fences by the bytes of documents. The blocks that are extracted from a document are those that its byte
lines have, so malformed bytes neither hide a fence nor make one, and no bytes keep a document from
being extracted.
-/

namespace FenceCheck

namespace Document

open Utf8

def byteMark : List UInt8 := [0x60, 0x60, 0x60]

def byteFences (bytes : List UInt8) : List Nat :=
  (((byteLines bytes).zipIdx 1).filter fun numbered => byteMark.isPrefixOf numbered.1).map (·.2)

theorem isFence_decoded (line : List UInt8) :
    Fence.isFence (decodeLossy line) = byteMark.isPrefixOf line := by
  have plain : ∀ b ∈ byteMark, 0 < b ∧ b < 0x80 := by decide +kernel
  rw [Bool.eq_iff_iff, Fence.isFence, List.isPrefixOf_iff_prefix, List.isPrefixOf_iff_prefix,
    ← ascii_begins plain line]
  rfl

theorem fenceNumbers_bytes (bytes : List UInt8) :
    Fence.fenceNumbers (Text.newlineSplit (textOf bytes)) = byteFences bytes := by
  rw [Fence.fenceNumbers, split_textOf, List.zipIdx_map, List.filter_map, List.map_map, byteFences]
  have same : (fun numbered : Text × Nat => Fence.isFence numbered.1) ∘
      Prod.map decodeLossy id = fun numbered => byteMark.isPrefixOf numbered.1 :=
    funext fun numbered => isFence_decoded numbered.1
  rw [same]
  rfl

theorem linesBetween_decoded (bytes : List UInt8) (first last : Nat) :
    Fence.linesBetween (Text.newlineSplit (textOf bytes)) first last =
      (((byteLines bytes).drop first).take (last - first - 1)).map decodeLossy := by
  rw [split_textOf, Fence.linesBetween, List.map_take, List.map_drop]

/-- Blocks and unclosed fences as the bytes of a document have them: the fences among its byte lines are
paired in order, and a block holds the decoded lines between its two. -/
structure PairsBytes (origin : Path) (bytes : List UInt8) (extraction : Extraction) : Prop where
  count : extraction.blocks.length = (byteFences bytes).length / 2
  block : ∀ i < (byteFences bytes).length / 2, ∃ first last block,
    (byteFences bytes)[2 * i]? = some first ∧ (byteFences bytes)[2 * i + 1]? = some last ∧
    extraction.blocks[i]? = some block ∧ block.origin = origin ∧ block.line = first ∧
    block.source = (((byteLines bytes).drop first).take (last - first - 1)).flatMap
      (decodeLossy · ++ [.char '\n']) ∧
    (last : Int) = block.line + block.source.count (.char '\n') + 1
  even : (byteFences bytes).length % 2 = 0 → extraction.unclosed = []
  odd : (byteFences bytes).length % 2 = 1 → ∃ last fence,
    (byteFences bytes).getLast? = some last ∧ extraction.unclosed = [fence] ∧
    fence.origin = origin ∧ fence.line = last

theorem pairsBytes_ofText (origin : Path) (bytes : List UInt8) :
    PairsBytes origin bytes (Extraction.ofText origin (textOf bytes)) := by
  have read : Extraction.ofText origin (textOf bytes) =
      Fence.extractLines origin 1 none (Text.newlineSplit (textOf bytes)) := rfl
  rw [read]
  constructor
  case count =>
      rw [Fence.extractLines_paired, Fence.paired_length, Fence.fenceNumbers_length,
        fenceNumbers_bytes]
  case block =>
      intro i inside
      rw [← fenceNumbers_bytes] at inside ⊢
      obtain ⟨opening, last, -, first, second, body, behind, block⟩ := Fence.pair_at origin inside
      refine ⟨opening.line, last, _, first, second, block, rfl, rfl, ?_, ?_⟩
      · have source : (opening.toBlock origin).source =
            opening.body.flatMap (· ++ [.char '\n']) := rfl
        rw [source, body, linesBetween_decoded, List.flatMap_map]
      · -- The lines between the fences hold no line feed, so those of the source count them.
        have free : ∀ line ∈ opening.body, .char '\n' ∉ line := by
          intro line member
          rw [body] at member
          exact Text.splitAt_free (List.mem_of_mem_drop (List.mem_of_mem_take member))
        rw [behind, Fence.Opening.toBlock, Fence.count_sourceOf free]
        push_cast
        rfl
  case even =>
      intro even
      rw [← fenceNumbers_bytes] at even
      exact Fence.unclosed_even origin even
  case odd =>
      intro odd
      rw [← fenceNumbers_bytes] at odd ⊢
      obtain ⟨opening, -, last, unclosed⟩ := Fence.unclosed_odd origin odd
      exact ⟨opening.line, _, last, unclosed, rfl, rfl⟩

/-- Documents that can be read are extracted, whatever their bytes are, and each gives the blocks and
unclosed fences that its bytes have. -/
theorem extract_pairs_byte_fences (files : Files) (contents : List (Path × List UInt8))
    (read : ∀ entry ∈ contents, files.read entry.1 = .ok entry.2) :
    ∃ parts, extract files (contents.map Prod.fst) = .ok (parts.foldr (· ++ ·) .empty) ∧
      List.Forall₂ (fun entry part => PairsBytes entry.1 entry.2 part) contents parts := by
  induction contents with
  | nil => exact ⟨[], rfl, .nil⟩
  | cons entry contents ih =>
      obtain ⟨here, later⟩ := List.forall_mem_cons.mp read
      obtain ⟨parts, rest, pairs⟩ := ih later
      refine ⟨Extraction.ofText entry.1 (textOf entry.2) :: parts, ?_,
        .cons (pairsBytes_ofText entry.1 entry.2) pairs⟩
      rw [List.map_cons, extract, here, rest]
      rfl

/-- A document whose lines end in all three ways, with malformed bytes before a fence, before a mark
that opens no line, and at its end. -/
def brokenBytes : List UInt8 :=
  [0xE2, 0x82, 0x0D, 0x60, 0x60, 0x60, 0x6A, 0x73, 0x0D, 0x0A, 0xED, 0xA0, 0x80, 0x60, 0x60, 0x60, 0x0A,
   0x60, 0x60, 0x60, 0xF0, 0x9F]

theorem extract_pairs_broken_bytes :
    let files : Files := ⟨.directory [("a.md", .file brokenBytes false)], []⟩
    byteFences brokenBytes = [2, 4] ∧ files.read (Path.ofText "a.md") = .ok brokenBytes ∧
      ∃ extraction block, extract files [Path.ofText "a.md"] = .ok extraction ∧
        extraction.blocks = [block] ∧ block.line = 2 ∧
        block.source = [.replacement, .replacement, .replacement] ++ Text.ofString "```\n" ∧
        extraction.unclosed = [] := by
  intro files
  have fences : byteFences brokenBytes = [2, 4] := by decide +kernel
  have read : files.read (Path.ofText "a.md") = .ok brokenBytes := rfl
  obtain ⟨parts, extracted, pairs⟩ := extract_pairs_byte_fences files
    [(Path.ofText "a.md", brokenBytes)] (List.forall_mem_singleton.mpr read)
  obtain ⟨part, _, pairing, ⟨⟩, rfl⟩ := List.forall₂_cons_left_iff.mp pairs
  obtain ⟨count, paired, even, -⟩ := pairing
  rw [fences] at count paired even
  obtain ⟨first, last, block, opens, closes, here, -, line, source, -⟩ := paired 0 (by decide)
  cases opens
  cases closes
  have whole : part.blocks = [block] := by
    obtain ⟨only, same⟩ := List.length_eq_one_iff.mp count
    rw [same] at here ⊢
    cases here
    rfl
  refine ⟨fences, read, part ++ Extraction.empty, block, extracted, ?_, line, ?_, ?_⟩
  · exact (List.append_nil _).trans whole
  · rw [source]
    decide +kernel
  · exact (List.append_nil _).trans (even rfl)

end Document

end FenceCheck

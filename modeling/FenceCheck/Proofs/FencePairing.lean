import FenceCheck.Document.Fence
import FenceCheck.Proofs.LineText
import Mathlib.Data.List.TakeWhile

/-!
What the fences of a document stand for. The lines that start with the mark are taken in pairs: each
odd one opens a block that the next one closes, and a last one without a partner stays open. So every
text is accepted, and its blocks are determined by the numbers of these lines.
-/

namespace FenceCheck

namespace Fence

variable {origin : Path} {number : Nat} {lines : List Text} {line : Text}

theorem count_sourceOf (free : ∀ line ∈ lines, .char '\n' ∉ line) :
    (sourceOf lines).count (.char '\n') = lines.length := by
  induction lines with
  | nil => rfl
  | cons line lines ih =>
      obtain ⟨here, later⟩ := List.forall_mem_cons.mp free
      have unfolded : sourceOf (line :: lines) = line ++ .char '\n' :: sourceOf lines := by
        simp [sourceOf]
      rw [unfolded, List.count_append, List.count_eq_zero_of_not_mem here, List.count_cons_self,
        ih later, List.length_cons, Nat.zero_add]

/-- Fences with the lines that follow each of them up to the next one, numbered from `number`. -/
def sections (number : Nat) : List Text → List Opening
  | [] => []
  | line :: rest =>
      if isFence line then
        ⟨number, trimmed line, rest.takeWhile (!isFence ·)⟩ :: sections (number + 1) rest
      else sections (number + 1) rest

/-- Sections in pairs: the first of a pair is a block, the second is what follows the block. -/
def paired (origin : Path) : List Opening → Extraction
  | [] => .empty
  | [opening] => ⟨[], [opening.toOpenFence origin]⟩
  | opening :: _ :: rest => ⟨[opening.toBlock origin], []⟩ ++ paired origin rest

theorem extractLines_sections (origin : Path) (number : Nat) (lines : List Text) :
    extractLines origin number none lines = paired origin (sections number lines) ∧
      ∀ opening, extractLines origin number (some opening) lines =
        paired origin ({ opening with body := opening.body ++ lines.takeWhile (!isFence ·) } ::
          sections number lines) := by
  -- Both states of the reader are followed at once, since a fence leads from each to the other.
  induction lines generalizing number with
  | nil =>
      refine ⟨rfl, fun opening => ?_⟩
      simp [extractLines, sections, paired]
  | cons line rest ih =>
      obtain ⟨idle, reading⟩ := ih (number + 1)
      cases fence : isFence line with
      | true =>
          refine ⟨?_, fun opening => ?_⟩
          · rw [extractLines, if_pos fence, reading, sections, if_pos fence]
            rfl
          · rw [extractLines, if_pos fence, idle, sections, if_pos fence]
            simp [fence, paired]
      | false =>
          have prose : ¬ isFence line = true := by simp [fence]
          refine ⟨?_, fun opening => ?_⟩
          · rw [extractLines, if_neg prose, idle, sections, if_neg prose]
          · rw [extractLines, if_neg prose, reading, sections, if_neg prose]
            simp [fence]

/-! Pairs by their positions. -/

theorem paired_blocks_cons (origin : Path) (opening next : Opening) (rest : List Opening) :
    (paired origin (opening :: next :: rest)).blocks =
      opening.toBlock origin :: (paired origin rest).blocks :=
  rfl

theorem paired_unclosed_cons (origin : Path) (opening next : Opening) (rest : List Opening) :
    (paired origin (opening :: next :: rest)).unclosed = (paired origin rest).unclosed :=
  rfl

theorem paired_length (origin : Path) (openings : List Opening) :
    (paired origin openings).blocks.length = openings.length / 2 := by
  induction openings using paired.induct with
  | case1 => rfl
  | case2 opening => simp [paired]
  | case3 opening next rest ih =>
      rw [paired_blocks_cons, List.length_cons, ih]
      simp only [List.length_cons]
      omega

theorem paired_block (origin : Path) (openings : List Opening) (i : Nat)
    (inside : 2 * i + 1 < openings.length) :
    (paired origin openings).blocks[i]? = openings[2 * i]?.map (·.toBlock origin) := by
  induction openings using paired.induct generalizing i with
  | case1 => cases inside
  | case2 opening => simp at inside
  | case3 opening next rest ih =>
      rw [paired_blocks_cons]
      cases i with
      | zero => rfl
      | succ i =>
          simp only [List.length_cons] at inside
          exact ih i (by omega)

theorem paired_sublist (origin : Path) (openings : List Opening) :
    (paired origin openings).blocks.Sublist (openings.map (·.toBlock origin)) := by
  induction openings using paired.induct with
  | case1 => exact List.Sublist.refl []
  | case2 opening => exact List.nil_sublist _
  | case3 opening next rest ih => exact .cons_cons _ (.cons _ ih)

theorem paired_unclosed (origin : Path) (openings : List Opening) :
    (paired origin openings).unclosed =
      if openings.length % 2 = 0 then []
      else (openings.getLast?.map (·.toOpenFence origin)).toList := by
  induction openings using paired.induct with
  | case1 => rfl
  | case2 opening => rfl
  | case3 opening next rest ih =>
      rw [paired_unclosed_cons, ih]
      have parity : (opening :: next :: rest).length % 2 = rest.length % 2 := by
        simp only [List.length_cons]
        omega
      rw [parity]
      split
      case isTrue even => rfl
      case isFalse odd =>
          have some : rest ≠ [] := by
            rintro rfl
            exact odd rfl
          rw [List.getLast?_cons_cons, List.getLast?_cons_of_ne_nil some]

/-! Sections by their numbers. -/

/-- The numbers of the lines that are fences. -/
def fenceNumbers (lines : List Text) : List Nat :=
  ((lines.zipIdx 1).filter fun numbered => isFence numbered.1).map (·.2)

theorem sections_numbers (number : Nat) (lines : List Text) :
    (sections number lines).map (·.line) =
      ((lines.zipIdx number).filter fun numbered => isFence numbered.1).map (·.2) := by
  induction lines generalizing number with
  | nil => rfl
  | cons line rest ih =>
      rw [sections, List.zipIdx_cons, List.filter_cons]
      split
      · rw [List.map_cons, List.map_cons, ih]
      · exact ih (number + 1)

theorem sections_content {opening : Opening} (member : opening ∈ sections number lines) :
    ∃ before line after, lines = before ++ line :: after ∧ isFence line = true ∧
      opening = ⟨number + before.length, trimmed line, after.takeWhile (!isFence ·)⟩ := by
  induction lines generalizing number with
  | nil => cases member
  | cons line rest ih =>
      have later (member : opening ∈ sections (number + 1) rest) :
          ∃ before here after, line :: rest = before ++ here :: after ∧ isFence here = true ∧
            opening = ⟨number + before.length, trimmed here, after.takeWhile (!isFence ·)⟩ := by
        obtain ⟨before, here, after, rfl, fence, same⟩ := ih member
        refine ⟨line :: before, here, after, rfl, fence, ?_⟩
        rw [same, List.length_cons, Nat.add_right_comm, Nat.add_assoc]
      rw [sections] at member
      split at member
      case isTrue fence =>
          rcases List.mem_cons.mp member with rfl | behind
          · exact ⟨[], line, rest, rfl, fence, rfl⟩
          · exact later behind
      case isFalse prose => exact later member

theorem sections_first {opening : Opening} (first : (sections number lines).head? = some opening) :
    opening.line = number + (lines.takeWhile (!isFence ·)).length := by
  induction lines generalizing number with
  | nil => cases first
  | cons line rest ih =>
      rw [sections] at first
      cases fence : isFence line with
      | true =>
          rw [if_pos fence] at first
          cases first
          simp [fence]
      | false =>
          rw [if_neg (by simp [fence])] at first
          rw [ih first]
          simp [fence]
          omega

theorem sections_next {opening next : Opening} {i : Nat}
    (here : (sections number lines)[i]? = some opening)
    (there : (sections number lines)[i + 1]? = some next) :
    next.line = opening.line + opening.body.length + 1 := by
  induction lines generalizing number i with
  | nil => cases here
  | cons line rest ih =>
      rw [sections] at here there
      split at here
      case isTrue fence =>
          rw [if_pos fence] at there
          cases i with
          | zero =>
              cases here
              have first : (sections (number + 1) rest).head? = some next := by
                rw [← there, List.getElem?_cons_succ, List.head?_eq_getElem?]
              rw [sections_first first]
              simp only
              omega
          | succ i => exact ih here there
      case isFalse prose =>
          rw [if_neg prose] at there
          exact ih here there

/-! What an opening fence says. -/

/-- A fence line: the mark, as long a word as there is, and the rest. -/
structure Reads (line word rest : Text) : Prop where
  whole : line = mark ++ (word ++ rest)
  word_only : ∀ c ∈ word, c.isAsciiWord = true
  longest : ∀ c ∈ rest.head?, c.isAsciiWord = false

theorem isFence_reads (fence : isFence line = true) : ∃ word rest, Reads line word rest := by
  obtain ⟨behind, rfl⟩ := List.isPrefixOf_iff_prefix.mp fence
  refine ⟨behind.takeWhile CodePoint.isAsciiWord, behind.dropWhile CodePoint.isAsciiWord, ?_, ?_, ?_⟩
  · rw [List.takeWhile_append_dropWhile]
  · exact fun c member => List.mem_takeWhile_imp member
  · intro c first
    have refused := List.head?_dropWhile_not CodePoint.isAsciiWord behind
    rw [Option.mem_def.mp first] at refused
    exact refused

theorem dropEndWhile_append (p : CodePoint → Bool) {start : Text} (kept : ∀ c ∈ start, p c = false)
    (t : Text) : Text.dropEndWhile p (start ++ t) = start ++ Text.dropEndWhile p t := by
  have fixed : start.reverse.dropWhile p = start.reverse := by
    cases reversed : start.reverse with
    | nil => rfl
    | cons c more =>
        have member : c ∈ start := List.mem_reverse.mp (reversed ▸ List.mem_cons_self)
        rw [List.dropWhile_cons_of_neg (by simp [kept c member])]
  rw [Text.dropEndWhile, List.reverse_append, List.dropWhile_append, fixed, Text.dropEndWhile]
  split
  case isTrue all =>
      rw [List.isEmpty_iff.mp all, List.reverse_nil, List.append_nil, List.reverse_reverse]
  case isFalse some => rw [List.reverse_append, List.reverse_reverse]

theorem trimmed_reads {word rest : Text} (reads : Reads line word rest) :
    (trimmed line).drop 3 = word ++ trimmed rest ∧
      ∀ c ∈ (trimmed rest).head?, c.isAsciiWord = false := by
  constructor
  · -- No carriage return is in the mark or the word, so what is trimmed lies behind both.
    have start : ∀ c ∈ mark ++ word, (c = .char '\r' : Bool) = false := by
      intro c member
      rcases List.mem_append.mp member with tick | letter
      · rw [List.eq_of_mem_replicate tick]
        rfl
      · have ascii := reads.word_only c letter
        rw [decide_eq_false_iff_not]
        rintro rfl
        cases ascii
    rw [reads.whole, ← List.append_assoc, trimmed, dropEndWhile_append _ start, List.append_assoc]
    rfl
  · intro c first
    obtain ⟨ends, whole⟩ : trimmed rest <+: rest := by
      have suffix := List.dropWhile_suffix (l := rest.reverse) fun c : CodePoint => c = .char '\r'
      rw [← List.reverse_prefix, List.reverse_reverse] at suffix
      exact suffix
    apply reads.longest
    rw [← whole, List.head?_append, Option.mem_def.mp first]
    rfl

theorem word_stops {t : Text} (stops : ∀ c ∈ t.head?, c.isAsciiWord = false) :
    t.takeWhile CodePoint.isAsciiWord = [] ∧ t.dropWhile CodePoint.isAsciiWord = t := by
  cases t with
  | nil => exact ⟨rfl, rfl⟩
  | cons c rest =>
      have other : ¬ c.isAsciiWord = true := by simp [stops c rfl]
      exact ⟨List.takeWhile_cons_of_neg other, List.dropWhile_cons_of_neg other⟩

theorem language_reads {word rest : Text} (reads : Reads line word rest) :
    language (trimmed line) = if word = [] then Text.ofString "text" else Text.lower word := by
  obtain ⟨behind, stops⟩ := trimmed_reads reads
  have taken : (word ++ trimmed rest).takeWhile CodePoint.isAsciiWord = word := by
    rw [List.takeWhile_append_of_pos reads.word_only, (word_stops stops).1, List.append_nil]
  rw [language, behind, taken]
  cases word <;> rfl

theorem info_reads {word rest : Text} (reads : Reads line word rest) :
    info (trimmed line) = Text.strip (trimmed rest) := by
  obtain ⟨behind, stops⟩ := trimmed_reads reads
  rw [info, behind, List.dropWhile_append_of_pos reads.word_only, (word_stops stops).2]

/-! The lines of a text, counted from one. -/

def lineAt : List Text → Nat → Option Text
  | _, 0 => none
  | lines, number + 1 => lines[number]?

def linesBetween (lines : List Text) (first last : Nat) : List Text :=
  (lines.drop first).take (last - first - 1)

theorem mem_fenceNumbers : number ∈ fenceNumbers lines ↔
    ∃ line, lineAt lines number = some line ∧ mark <+: line := by
  have numbered (line : Text) : (line, number) ∈ lines.zipIdx 1 ↔ lineAt lines number = some line := by
    rw [List.mem_zipIdx_iff_le_and_getElem?_sub]
    cases number with
    | zero => simp [lineAt]
    | succ n => simp [lineAt]
  rw [fenceNumbers, List.mem_map]
  constructor
  · rintro ⟨⟨line, place⟩, member, rfl⟩
    obtain ⟨here, fence⟩ := List.mem_filter.mp member
    exact ⟨line, (numbered line).mp here, List.isPrefixOf_iff_prefix.mp fence⟩
  · rintro ⟨line, here, fence⟩
    exact ⟨(line, number), List.mem_filter.mpr ⟨(numbered line).mpr here,
      List.isPrefixOf_iff_prefix.mpr fence⟩, rfl⟩

theorem fenceNumbers_ascending (lines : List Text) : (fenceNumbers lines).Pairwise (· < ·) := by
  have numbers : (fenceNumbers lines).Sublist ((lines.zipIdx 1).map (·.2)) :=
    List.filter_sublist.map _
  have range : (lines.zipIdx 1).map (·.2) = List.range' 1 lines.length := List.zipIdx_map_snd 1 lines
  rw [range] at numbers
  exact List.Pairwise.sublist numbers List.pairwise_lt_range'

theorem fence_at {opening : Opening} (member : opening ∈ sections 1 lines) :
    ∃ line word rest, lineAt lines opening.line = some line ∧ Reads line word rest ∧
      opening.text = trimmed line ∧ opening.body <+: lines.drop opening.line := by
  obtain ⟨before, line, after, rfl, fence, rfl⟩ := sections_content member
  obtain ⟨word, rest, reads⟩ := isFence_reads fence
  refine ⟨line, word, rest, ?_, reads, rfl, ?_⟩
  · simp [lineAt, Nat.add_comm 1]
  · have behind : (before ++ line :: after).drop (1 + before.length) = after := by
      simp [Nat.add_comm 1, List.drop_append]
    rw [behind]
    exact List.takeWhile_prefix _

theorem fenceNumbers_sections (lines : List Text) :
    fenceNumbers lines = (sections 1 lines).map (·.line) :=
  (sections_numbers 1 lines).symm

theorem section_body {opening next : Opening} {i : Nat}
    (here : (sections 1 lines)[i]? = some opening) (there : (sections 1 lines)[i + 1]? = some next)
    (behind : opening.body <+: lines.drop opening.line) :
    opening.body = linesBetween lines opening.line next.line := by
  have count : next.line - opening.line - 1 = opening.body.length := by
    have step := sections_next here there
    omega
  rw [linesBetween, count]
  exact List.prefix_iff_eq_take.mp behind

/-! The blocks of lines by the numbers of their fences. -/

theorem extractLines_paired (origin : Path) (lines : List Text) :
    extractLines origin 1 none lines = paired origin (sections 1 lines) :=
  (extractLines_sections origin 1 lines).1

theorem fenceNumbers_length (lines : List Text) :
    (sections 1 lines).length = (fenceNumbers lines).length := by
  rw [fenceNumbers_sections, List.length_map]

theorem pair_at (origin : Path) {i : Nat} (inside : i < (fenceNumbers lines).length / 2) :
    ∃ opening last, opening ∈ sections 1 lines ∧
      (fenceNumbers lines)[2 * i]? = some opening.line ∧
      (fenceNumbers lines)[2 * i + 1]? = some last ∧
      opening.body = linesBetween lines opening.line last ∧
      last = opening.line + opening.body.length + 1 ∧
      (extractLines origin 1 none lines).blocks[i]? = some (opening.toBlock origin) := by
  -- Both fences of the pair have a section that begins there.
  have second : 2 * i + 1 < (sections 1 lines).length := by
    rw [fenceNumbers_length]
    omega
  have here := List.getElem?_eq_getElem (Nat.lt_of_succ_lt second)
  have there := List.getElem?_eq_getElem second
  generalize (sections 1 lines)[2 * i] = opening at here
  generalize (sections 1 lines)[2 * i + 1] = next at there
  have member := List.mem_of_getElem? here
  obtain ⟨line, word, rest, -, -, -, behind⟩ := fence_at member
  refine ⟨opening, next.line, member, ?_, ?_, section_body here there behind,
    sections_next here there, ?_⟩
  · rw [fenceNumbers_sections, List.getElem?_map, here]
    rfl
  · rw [fenceNumbers_sections, List.getElem?_map, there]
    rfl
  · rw [extractLines_paired, paired_block origin _ i second, here]
    rfl

theorem origin_of_block {origin : Path} {block : Block}
    (member : block ∈ (extractLines origin 1 none lines).blocks) : block.origin = origin := by
  rw [extractLines_paired] at member
  obtain ⟨opening, -, rfl⟩ := List.mem_map.mp ((paired_sublist origin _).subset member)
  rfl

theorem blocks_ascending (origin : Path) (lines : List Text) :
    ((extractLines origin 1 none lines).blocks.map (·.line)).Pairwise (· < ·) := by
  have numbers : ((sections 1 lines).map (·.toBlock origin)).map (·.line) =
      (fenceNumbers lines).map Int.ofNat := by
    rw [fenceNumbers_sections, List.map_map, List.map_map]
    rfl
  have ascending : ((fenceNumbers lines).map Int.ofNat).Pairwise (· < ·) :=
    (fenceNumbers_ascending lines).map _ fun _ _ => Int.ofNat_lt.mpr
  rw [extractLines_paired]
  rw [← numbers] at ascending
  exact ascending.sublist ((paired_sublist origin _).map _)

theorem unclosed_even (origin : Path) (even : (fenceNumbers lines).length % 2 = 0) :
    (extractLines origin 1 none lines).unclosed = [] := by
  rw [extractLines_paired, paired_unclosed, fenceNumbers_length, if_pos even]

theorem unclosed_odd (origin : Path) (odd : (fenceNumbers lines).length % 2 = 1) :
    ∃ opening ∈ sections 1 lines, (fenceNumbers lines).getLast? = some opening.line ∧
      (extractLines origin 1 none lines).unclosed = [opening.toOpenFence origin] := by
  have some : sections 1 lines ≠ [] := by
    intro none
    rw [← fenceNumbers_length, none] at odd
    cases odd
  have last := List.getLast?_eq_some_getLast some
  generalize (sections 1 lines).getLast some = opening at last
  refine ⟨opening, List.mem_of_getLast? last, ?_, ?_⟩
  · rw [fenceNumbers_sections, List.getLast?_map, last]
    rfl
  · rw [extractLines_paired, paired_unclosed, fenceNumbers_length, if_neg (by omega), last]
    rfl

end Fence

/-- The blocks of a text lie between the fences that are paired, each read off its opening fence and the
lines up to the closing one. A fence without a partner is unclosed. -/
theorem Extraction.ofText_pairs_fences (origin : Path) (t : Text) :
    let lines := Text.newlineSplit t
    let fences := Fence.fenceNumbers lines
    let extraction := Extraction.ofText origin t
    Text.join [.char '\n'] lines = t ∧ (∀ line ∈ lines, .char '\n' ∉ line) ∧
      fences.Pairwise (· < ·) ∧
      (∀ number, number ∈ fences ↔
        ∃ line, Fence.lineAt lines number = some line ∧ Fence.mark <+: line) ∧
      extraction.blocks.length = fences.length / 2 ∧
      (∀ i < fences.length / 2, ∃ first last line word rest,
        fences[2 * i]? = some first ∧ fences[2 * i + 1]? = some last ∧
        Fence.lineAt lines first = some line ∧ Fence.Reads line word rest ∧
        extraction.blocks[i]? = some
          { language := if word = [] then Text.ofString "text" else Text.lower word
            source := (Fence.linesBetween lines first last).flatMap (· ++ [.char '\n'])
            origin, line := first, info := Text.strip (Fence.trimmed rest) }) ∧
      (fences.length % 2 = 0 → extraction.unclosed = []) ∧
      (fences.length % 2 = 1 → ∃ last line word rest,
        fences.getLast? = some last ∧
        Fence.lineAt lines last = some line ∧ Fence.Reads line word rest ∧
        extraction.unclosed =
          [{ origin, line := last, info := Text.strip (Fence.trimmed rest) }]) := by
  intro lines fences extraction
  refine ⟨Text.join_splitAt _ t, fun line => Text.splitAt_free, Fence.fenceNumbers_ascending lines,
    fun number => Fence.mem_fenceNumbers, ?_, ?_, Fence.unclosed_even origin, ?_⟩
  · rw [← Fence.fenceNumbers_length, ← Fence.paired_length origin, ← Fence.extractLines_paired]
    rfl
  · intro i inside
    obtain ⟨opening, last, member, first, second, body, -, block⟩ := Fence.pair_at origin inside
    obtain ⟨line, word, rest, here, reads, text, -⟩ := Fence.fence_at member
    refine ⟨opening.line, last, line, word, rest, first, second, here, reads, block.trans ?_⟩
    rw [← body, ← Fence.language_reads reads, ← Fence.info_reads reads, ← text]
    rfl
  · intro odd
    obtain ⟨opening, member, last, unclosed⟩ := Fence.unclosed_odd origin odd
    obtain ⟨line, word, rest, here, reads, text, -⟩ := Fence.fence_at member
    refine ⟨opening.line, line, word, rest, last, here, reads, unclosed.trans ?_⟩
    rw [← Fence.info_reads reads, ← text]
    rfl

def threeFences : Text := "Notes\n```TS run\r\nlet x\n```\n```js"

theorem Extraction.ofText_pairs_three_fences :
    let lines := Text.newlineSplit threeFences
    let extraction := Extraction.ofText default threeFences
    Fence.fenceNumbers lines = [2, 4, 5] ∧ extraction.blocks.length = 1 ∧
      (∃ line word rest, Fence.lineAt lines 2 = some line ∧ Fence.Reads line word rest ∧
        extraction.blocks[0]? = some
          { language := if word = [] then Text.ofString "text" else Text.lower word
            source := (Fence.linesBetween lines 2 4).flatMap (· ++ [.char '\n'])
            origin := default, line := 2, info := Text.strip (Fence.trimmed rest) }) ∧
      ∃ line word rest, Fence.lineAt lines 5 = some line ∧ Fence.Reads line word rest ∧
        extraction.unclosed =
          [{ origin := default, line := 5, info := Text.strip (Fence.trimmed rest) }] := by
  have numbers : Fence.fenceNumbers (Text.newlineSplit threeFences) = [2, 4, 5] := by decide
  obtain ⟨-, -, -, -, count, blocks, -, unclosed⟩ :=
    Extraction.ofText_pairs_fences default threeFences
  simp only [numbers] at count blocks unclosed
  obtain ⟨first, last, line, word, rest, opens, closes, here, reads, block⟩ := blocks 0 (by decide)
  obtain ⟨final, openLine, openWord, openRest, ends, there, openReads, left⟩ := unclosed (by decide)
  cases Option.some.inj opens
  cases Option.some.inj closes
  cases Option.some.inj ends
  exact ⟨numbers, count, ⟨line, word, rest, here, reads, block⟩, openLine, openWord, openRest, there,
    openReads, left⟩

end FenceCheck

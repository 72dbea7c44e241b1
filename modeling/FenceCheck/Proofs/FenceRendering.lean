import FenceCheck.Proofs.FencePairing
import FenceCheck.Proofs.PathText

/-!
Blocks as text again. What is read of a fence is in a form that reading does not change: the language is
a word in lower case, the info has no blank at its ends, and no line of the source is a fence. So a block
that is written back is read as it was, wherever it stands among prose, and only its line moves.
-/

namespace FenceCheck

namespace LowerCase

theorem word_lower {c : CodePoint} (word : c.isAsciiWord = true) :
    c.val ≠ 0x3A3 ∧ ∃ low : CodePoint, ofCodePoint c = [low] ∧ low.isAsciiWord = true ∧
      ofCodePoint low = [low] := by
  have table : ∀ n < 128, (CodePoint.char (Char.ofNat n)).isAsciiWord = true →
      (CodePoint.char (Char.ofNat n)).val ≠ 0x3A3 ∧
        ofCodePoint (.char (Char.ofNat n)) = [.char (Char.ofNat n).toLower] ∧
          (CodePoint.char (Char.ofNat n).toLower).isAsciiWord = true ∧
            ofCodePoint (.char (Char.ofNat n).toLower) = [.char (Char.ofNat n).toLower] := by
    decide
  obtain ⟨n, small, rfl⟩ := CodePoint.isAsciiWord_small word
  obtain ⟨other, lowered, low, fixed⟩ := table n small word
  exact ⟨other, _, lowered, low, fixed⟩

theorem lowerAfter_word (before : Text) {word : Text} (ascii : ∀ c ∈ word, c.isAsciiWord = true) :
    (∀ c ∈ lowerAfter before word, c.isAsciiWord = true) ∧
      (lowerAfter before word).length = word.length ∧
      ∀ other, lowerAfter other (lowerAfter before word) = lowerAfter before word := by
  induction word generalizing before with
  | nil => exact ⟨List.forall_mem_nil _, rfl, fun _ => rfl⟩
  | cons c rest ih =>
      obtain ⟨here, later⟩ := List.forall_mem_cons.mp ascii
      obtain ⟨other, low, lowered, word, fixed⟩ := word_lower here
      obtain ⟨words, length, again⟩ := ih (c :: before) later
      have plain := (word_lower word).1
      rw [lowerAfter, if_neg other, lowered, List.singleton_append]
      refine ⟨List.forall_mem_cons.mpr ⟨word, words⟩, congrArg (· + 1) length, fun front => ?_⟩
      rw [lowerAfter, if_neg plain, fixed, again, List.singleton_append]

end LowerCase

theorem Text.strip_strip (t : Text) : strip (strip t) = strip t :=
  strip_of_ends (fun _ => strip_head) (fun _ => strip_last)

/-- A block between fences, as its language, its info and its source say. -/
def Block.render (block : Block) : Text :=
  Fence.mark ++ block.language ++ .char ' ' :: block.info ++ .char '\n' :: block.source ++
    Fence.mark ++ [.char '\n']

namespace Fence

variable {origin : Path} {number : Nat} {block : Block} {lines body : List Text} {line : Text}

/-- Lines that are no fences. -/
def IsProse (lines : List Text) : Prop := ∀ line ∈ lines, .char '\n' ∉ line ∧ isFence line = false

instance (lines : List Text) : Decidable (IsProse lines) :=
  inferInstanceAs (Decidable (∀ line ∈ lines, .char '\n' ∉ line ∧ isFence line = false))

/-- What is read of a fence is read again from what it is written as. -/
structure Stable (block : Block) : Prop where
  named : block.language ≠ []
  word : ∀ c ∈ block.language, c.isAsciiWord = true
  lowered : Text.lower block.language = block.language
  stripped : Text.strip block.info = block.info
  single : .char '\n' ∉ block.info
  source : ∃ body, block.source = sourceOf body ∧ IsProse body

theorem language_stable {word rest : Text} (reads : Reads line word rest) :
    language (trimmed line) ≠ [] ∧ (∀ c ∈ language (trimmed line), c.isAsciiWord = true) ∧
      Text.lower (language (trimmed line)) = language (trimmed line) := by
  rw [language_reads reads]
  split
  case isTrue none => decide
  case isFalse some =>
      obtain ⟨words, length, again⟩ := LowerCase.lowerAfter_word [] reads.word_only
      refine ⟨?_, words, again []⟩
      intro empty
      rw [← Text.lower, empty] at length
      exact some (List.eq_nil_of_length_eq_zero length.symm)

theorem trimmed_subset (line : Text) : trimmed line ⊆ line := fun _ member =>
  List.mem_reverse.mp ((List.dropWhile_suffix _).subset (List.mem_reverse.mp member))

theorem stable_of_section {opening : Opening} (plain : ∀ line ∈ lines, .char '\n' ∉ line)
    (member : opening ∈ sections number lines) : Stable (opening.toBlock origin) := by
  obtain ⟨before, line, after, rfl, fence, rfl⟩ := sections_content member
  obtain ⟨word, rest, reads⟩ := isFence_reads fence
  obtain ⟨named, word, lowered⟩ := language_stable reads
  refine ⟨named, word, lowered, ?_, ?_, _, rfl, ?_⟩
  · exact Text.strip_strip _
  · intro inside
    rw [Opening.toBlock, info_reads reads] at inside
    refine plain line (List.mem_append_right _ List.mem_cons_self) ?_
    rw [reads.whole]
    exact List.mem_append_right _ (List.mem_append_right _
      (trimmed_subset _ (Text.mem_strip inside)))
  · intro other among
    refine ⟨plain other (List.mem_append_right _ (List.mem_cons_of_mem _
      ((List.takeWhile_prefix _).subset among))), ?_⟩
    simpa using List.mem_takeWhile_imp among

theorem blocks_stable (origin : Path) (t : Text) :
    ∀ block ∈ (Extraction.ofText origin t).blocks, Stable block := by
  intro block member
  rw [Extraction.ofText, extractLines_paired] at member
  obtain ⟨opening, among, rfl⟩ := List.mem_map.mp ((paired_sublist origin _).subset member)
  exact stable_of_section (fun line => Text.splitAt_free) among

/-! Reading what was written. -/

def openingLine (block : Block) : Text := mark ++ (block.language ++ .char ' ' :: block.info)

theorem openingLine_reads (stable : Stable block) :
    Reads (openingLine block) block.language (.char ' ' :: block.info) where
  whole := rfl
  word_only := stable.word
  longest c first := by
    cases first
    rfl

theorem mark_prefix (rest : Text) : isFence (mark ++ rest) = true :=
  List.isPrefixOf_iff_prefix.mpr (List.prefix_append mark rest)

theorem trimmed_kept {c : CodePoint} (last : line.getLast? = some c) (other : c ≠ .char '\r') :
    trimmed line = line := by
  rw [← List.head?_reverse] at last
  obtain ⟨behind, reversed⟩ := List.head?_eq_some_iff.mp last
  rw [trimmed, Text.dropEndWhile, reversed, List.dropWhile_cons_of_neg (by simpa using other),
    ← reversed, List.reverse_reverse]

theorem strip_behind {info : Text} (stripped : Text.strip info = info) :
    Text.strip (trimmed (.char ' ' :: info)) = info := by
  cases last : info.getLast? with
  | none =>
      rw [List.getLast?_eq_none_iff.mp last]
      decide
  | some c =>
      have visible : ¬ c.isBlank = true := Text.strip_last (stripped.symm ▸ last)
      have other : c ≠ .char '\r' := by
        rintro rfl
        exact visible rfl
      have some : info ≠ [] := by
        rintro rfl
        cases last
      rw [trimmed_kept (List.getLast?_cons_of_ne_nil some ▸ last) other, Text.strip, Text.stripStart,
        List.dropWhile_cons_of_pos rfl]
      exact stripped

theorem toBlock_openingLine (stable : Stable block) (sourced : block.source = sourceOf body) :
    (⟨number, trimmed (openingLine block), body⟩ : Opening).toBlock origin =
      { block with origin, line := number } := by
  have reads := openingLine_reads stable
  have language : language (trimmed (openingLine block)) = block.language := by
    rw [language_reads reads, if_neg stable.named, stable.lowered]
  have info : info (trimmed (openingLine block)) = block.info := by
    rw [info_reads reads, strip_behind stable.stripped]
  rw [Opening.toBlock, language, info, sourced]

theorem extractLines_prose (prose : IsProse lines) (rest : List Text) :
    extractLines origin number none (lines ++ rest) =
      extractLines origin (number + lines.length) none rest := by
  induction lines generalizing number with
  | nil => rfl
  | cons line lines ih =>
      obtain ⟨⟨-, other⟩, later⟩ := List.forall_mem_cons.mp prose
      rw [List.cons_append, extractLines, if_neg (by simp [other]), ih later, List.length_cons,
        Nat.add_right_comm, Nat.add_assoc]

theorem extractLines_body (prose : IsProse body) (opening : Opening) (rest : List Text) :
    extractLines origin number (some opening) (body ++ mark :: rest) =
      ⟨[{ opening with body := opening.body ++ body }.toBlock origin], []⟩ ++
        extractLines origin (number + body.length + 1) none rest := by
  induction body generalizing number opening with
  | nil =>
      rw [List.nil_append, extractLines, if_pos (by decide), List.append_nil]
      rfl
  | cons line body ih =>
      obtain ⟨⟨-, other⟩, later⟩ := List.forall_mem_cons.mp prose
      rw [List.cons_append, extractLines, if_neg (by simp [other]), ih later, List.length_cons,
        List.append_assoc, List.singleton_append, Nat.add_right_comm number 1, Nat.add_assoc number]

/-! Documents that are made of blocks with prose between them. -/

/-- A block with the lines in front of it. -/
structure Passage where
  prose : List Text
  block : Block
  deriving Repr

def Passage.render (passage : Passage) : Text := sourceOf passage.prose ++ passage.block.render

/-- Passages one behind another, and what follows them. -/
def renderAll (passages : List Passage) (ending : Text) : Text :=
  passages.flatMap Passage.render ++ ending

theorem split_sourceOf (plain : ∀ line ∈ lines, .char '\n' ∉ line) (rest : Text) :
    Text.newlineSplit (sourceOf lines ++ rest) = lines ++ Text.newlineSplit rest := by
  induction lines with
  | nil => rfl
  | cons line lines ih =>
      obtain ⟨here, later⟩ := List.forall_mem_cons.mp plain
      have unfolded : sourceOf (line :: lines) ++ rest = line ++ .char '\n' :: (sourceOf lines ++ rest) := by
        simp [sourceOf]
      rw [unfolded, Text.newlineSplit, Text.splitAt_piece here, ← Text.newlineSplit, ih later,
        List.cons_append]

theorem openingLine_plain (stable : Stable block) : .char '\n' ∉ openingLine block := by
  have ticks : .char '\n' ∉ mark := by decide
  have letters : .char '\n' ∉ block.language := fun member => by cases stable.word _ member
  have gap : (.char '\n' : CodePoint) ≠ .char ' ' := by decide
  simp [openingLine, ticks, letters, gap, stable.single]

theorem sourceOf_append (front back : List Text) :
    sourceOf (front ++ back) = sourceOf front ++ sourceOf back := List.flatMap_append

theorem render_lines (sourced : block.source = sourceOf body) :
    block.render = sourceOf (openingLine block :: body ++ [mark]) := by
  rw [Block.render, sourced, openingLine]
  simp [sourceOf, List.append_assoc]

theorem split_passage {passage : Passage} (stable : Stable passage.block)
    (prose : IsProse passage.prose) :
    ∃ body, passage.block.source = sourceOf body ∧ IsProse body ∧
      passage.render.count (.char '\n') = passage.prose.length + body.length + 2 ∧
      ∀ rest, Text.newlineSplit (passage.render ++ rest) =
        passage.prose ++ openingLine passage.block :: (body ++ mark :: Text.newlineSplit rest) := by
  obtain ⟨body, sourced, proper⟩ := stable.source
  have plain : ∀ line ∈ passage.prose ++ (openingLine passage.block :: body ++ [mark]),
      .char '\n' ∉ line := by
    simp only [List.forall_mem_append, List.cons_append, List.forall_mem_cons]
    exact ⟨fun line member => (prose line member).1, openingLine_plain stable,
      fun line member => (proper line member).1, by decide, List.forall_mem_nil _⟩
  have whole : passage.render =
      sourceOf (passage.prose ++ (openingLine passage.block :: body ++ [mark])) := by
    rw [Passage.render, render_lines sourced, ← sourceOf_append]
  refine ⟨body, sourced, proper, ?_, fun rest => ?_⟩
  · rw [whole, count_sourceOf plain]
    simp only [List.length_append, List.length_cons, List.length_nil]
    omega
  · rw [whole, split_sourceOf plain]
    simp only [List.append_assoc, List.cons_append, List.nil_append]

theorem extractLines_passage {passage : Passage} (stable : Stable passage.block)
    (prose : IsProse passage.prose) (rest : Text) :
    extractLines origin number none (Text.newlineSplit (passage.render ++ rest)) =
      ⟨[{ passage.block with origin, line := (number + passage.prose.length : Nat) }], []⟩ ++
        extractLines origin (number + passage.render.count (.char '\n')) none
          (Text.newlineSplit rest) := by
  obtain ⟨body, sourced, proper, count, split⟩ := split_passage stable prose
  have opens : isFence (openingLine passage.block) = true := mark_prefix _
  rw [split, extractLines_prose prose, extractLines, if_pos opens, extractLines_body proper,
    List.nil_append, toBlock_openingLine stable sourced, count]
  congr 2
  omega

/-- The blocks of passages by the lines they are at, where `number` is the first. -/
def placed (origin : Path) (number : Nat) : List Passage → List Block
  | [] => []
  | passage :: rest =>
      { passage.block with origin, line := (number + passage.prose.length : Nat) } ::
        placed origin (number + passage.render.count (.char '\n')) rest

theorem extractLines_renderAll {passages : List Passage} {ending : Text}
    (stable : ∀ passage ∈ passages, Stable passage.block)
    (prose : ∀ passage ∈ passages, IsProse passage.prose)
    (ends : ∀ line ∈ Text.newlineSplit ending, isFence line = false) :
    extractLines origin number none (Text.newlineSplit (renderAll passages ending)) =
      ⟨placed origin number passages, []⟩ := by
  induction passages generalizing number with
  | nil =>
      have proper : IsProse (Text.newlineSplit ending) := fun line member =>
        ⟨Text.splitAt_free member, ends line member⟩
      have read : extractLines origin number none (Text.newlineSplit ending ++ []) = ⟨[], []⟩ :=
        extractLines_prose proper []
      rw [List.append_nil] at read
      exact read
  | cons passage rest ih =>
      obtain ⟨here, later⟩ := List.forall_mem_cons.mp stable
      obtain ⟨front, behind⟩ := List.forall_mem_cons.mp prose
      rw [renderAll, List.flatMap_cons, List.append_assoc, extractLines_passage here front,
        ← renderAll, ih later behind]
      rfl

theorem placed_content (origin : Path) (number : Nat) (passages : List Passage) :
    (placed origin number passages).map (fun block => (block.language, block.info, block.source)) =
      passages.map fun passage =>
        (passage.block.language, passage.block.info, passage.block.source) := by
  induction passages generalizing number with
  | nil => rfl
  | cons passage rest ih => rw [placed, List.map_cons, List.map_cons, ih]

theorem placed_line (origin : Path) (number : Nat) (front : List Passage) {passage : Passage}
    (prose : IsProse passage.prose) (back : List Passage) :
    ((placed origin number (front ++ passage :: back))[front.length]?.map (·.line)) =
      some ((number + (front.flatMap Passage.render ++ sourceOf passage.prose).count (.char '\n') :
        Nat) : Int) := by
  induction front generalizing number with
  | nil =>
      have count := count_sourceOf fun line member => (prose line member).1
      simp only [List.flatMap_nil, List.nil_append, count]
      rfl
  | cons first front ih =>
      rw [List.cons_append, placed, List.length_cons, List.getElem?_cons_succ, ih, Nat.add_assoc,
        ← List.count_append, List.flatMap_cons, List.append_assoc]

end Fence

/-- The blocks of a text that are written back, with prose in front of each and behind the last, are
read as they were. No fence is left open, and a block is at the line that its opening fence was written
to. -/
theorem Extraction.ofText_renderAll (origin place : Path) (t : Text) (passages : List Fence.Passage)
    (ending : Text)
    (read : passages.map (·.block) = (Extraction.ofText origin t).blocks)
    (prose : ∀ passage ∈ passages, Fence.IsProse passage.prose)
    (ends : ∀ line ∈ Text.newlineSplit ending, Fence.isFence line = false) :
    let again := Extraction.ofText place (Fence.renderAll passages ending)
    again.unclosed = [] ∧
      again.blocks.map (fun block => (block.language, block.info, block.source)) =
        (Extraction.ofText origin t).blocks.map
          (fun block => (block.language, block.info, block.source)) ∧
      ∀ front passage back, passages = front ++ passage :: back →
        again.blocks[front.length]?.map (·.line) =
          some (1 + ((front.flatMap Fence.Passage.render ++
            Fence.sourceOf passage.prose).count (.char '\n') : Int)) := by
  intro again
  have stable : ∀ passage ∈ passages, Fence.Stable passage.block := fun passage member =>
    Fence.blocks_stable origin t _ (read ▸ List.mem_map_of_mem member)
  have whole : again = ⟨Fence.placed place 1 passages, []⟩ :=
    Fence.extractLines_renderAll stable prose ends
  rw [whole]
  refine ⟨rfl, ?_, ?_⟩
  · rw [Fence.placed_content, ← read, List.map_map]
    rfl
  · rintro front passage back rfl
    have proper := prose passage (List.mem_append_right _ List.mem_cons_self)
    rw [Fence.placed_line place 1 front proper back]
    push_cast
    rfl

def untidyText : Text := "```TS  run\t\r\nlet x\n\n```\n```  a `b`\r\n```\nend"

theorem Extraction.ofText_renderAll_untidy :
    let typed : Block := ⟨"ts", "let x\n\n", default, 1, "run"⟩
    let bare : Block := ⟨"text", [], default, 5, "a `b`"⟩
    let again := Extraction.ofText default
      (Fence.renderAll [⟨["Notes"], typed⟩, ⟨[[], " ```"], bare⟩] "bye")
    (Extraction.ofText default untidyText).blocks = [typed, bare] ∧ again.unclosed = [] ∧
      again.blocks.map (fun block => (block.language, block.info, block.source)) =
        [(typed.language, typed.info, typed.source), (bare.language, bare.info, bare.source)] ∧
      again.blocks[0]?.map (·.line) = some 2 ∧ again.blocks[1]?.map (·.line) = some 8 := by
  intro typed bare again
  have read : (Extraction.ofText default untidyText).blocks = [typed, bare] := by decide +kernel
  obtain ⟨closed, contents, lines⟩ := Extraction.ofText_renderAll default default untidyText
    [⟨["Notes"], typed⟩, ⟨[[], " ```"], bare⟩] "bye" read.symm (by decide) (by decide)
  rw [read] at contents
  have front : ((Fence.sourceOf ["Notes"]).count (.char '\n') : Int) = 1 := by decide
  have between : (([⟨["Notes"], typed⟩] : List Fence.Passage).flatMap Fence.Passage.render ++
      Fence.sourceOf [[], " ```"]).count (.char '\n') = 7 := by decide
  refine ⟨read, closed, contents, (lines [] _ _ rfl).trans ?_, (lines [_] _ _ rfl).trans ?_⟩
  · rw [List.flatMap_nil, List.nil_append, front]
    rfl
  · rw [between]
    rfl

end FenceCheck

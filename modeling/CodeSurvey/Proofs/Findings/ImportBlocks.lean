import CodeSurvey.Proofs.Findings.ImportOrder
import CodeSurvey.Proofs.Findings.ImportSpecs

/-!
# Blocks of imports

A file with one block of imports, and the imports that are found in it. The first closing
parenthesis after the opening one ends the block, also one in a comment: the specs on the lines
after it are not found.
-/

namespace CodeSurvey
open Text Text.Pattern

namespace Imports

/-! ## Files with a block -/

def BlockLine.closes (l : BlockLine) : Bool := l.comment?.any (·.contains ')')

/-- The specs up to the first comment with a closing parenthesis. -/
def listed : List BlockLine → List Spec
  | [] => []
  | l :: ls => l.spec?.toList ++ if l.closes then [] else listed ls

def IsPackageClause (line : List Char) : Prop :=
  ∃ gap name space, line = "package".toList ++ (gap ++ (name ++ space)) ∧ gap ≠ [] ∧
    gap.all isInline ∧ name.all isWord ∧ space.all isInline

structure BlockFile where
  /-- The lines before the block. -/
  head : List (List Char)
  /-- White space before the parenthesis that opens the block, and after it. -/
  gap : List Char
  space : List Char
  lines : List BlockLine
  /-- White space before the parenthesis that closes the block, and after it. -/
  closingIndent : List Char
  closingSpace : List Char
  /-- The lines after the block. -/
  tail : List (List Char)

namespace BlockFile

def openingLine (f : BlockFile) : List Char := "import".toList ++ (f.gap ++ '(' :: f.space)

theorem openingLine_eq (f : BlockFile) :
    f.openingLine = "import".toList ++ (f.gap ++ '(' :: f.space) := rfl

def closingLine (f : BlockFile) : List Char := f.closingIndent ++ ')' :: f.closingSpace

/-- The lines that come after the opening one. -/
def restLines (f : BlockFile) : List (List Char) :=
  f.lines.map BlockLine.chars ++ f.closingLine :: f.tail

def text (f : BlockFile) : List Char := joinLines (f.head ++ f.openingLine :: f.restLines)

def content (f : BlockFile) : String := String.ofList f.text

/-- All specs of the block. -/
def specs (f : BlockFile) : List Spec := f.lines.filterMap BlockLine.spec?

structure WellFormed (f : BlockFile) : Prop where
  head : ∀ line ∈ f.head, IsPackageClause line ∨ line.all isInline
  gap : f.gap.all isInline
  space : f.space.all isInline
  lines : AllWellFormed f.lines
  closingIndent : f.closingIndent.all isInline
  closingSpace : f.closingSpace.all isInline
  tail : ∀ line ∈ f.tail, line.all isInline

end BlockFile

/-- A text holds what opens a block: the word `import` and a parenthesis, maybe white space between. -/
def Reopens (text : List Char) : Prop :=
  ∃ before gap after, text = before ++ ("import".toList ++ (gap ++ '(' :: after)) ∧
    gap.all isSpace ∧ isWordAt before.getLast? = false

/-! ## The pattern of blocks -/

def blockFirst : List Pattern := [wordEdge, exactly "import", spaces, exactly "("]

def blockBody : Pattern := run (· != ')') 0

theorem goBlockPattern_eq :
    goBlockPattern = all (blockFirst ++ group 1 blockBody :: [exactly ")"]) := rfl

variable {before xs ys zs after : List Char}

theorem reads_blockFirst : (all blockFirst).Reads before xs after ↔
    ∃ gap, xs = "import".toList ++ (gap ++ ['(']) ∧ gap.all isSpace ∧
      isWordAt before.getLast? = false := by
  have hfirst : isWordAt (some 'i') = true := by decide
  rw [blockFirst, reads_wordEdge]
  constructor
  · intro h
    obtain ⟨hedge, h⟩ := h
    obtain ⟨word, xs, rfl, hword, h⟩ := reads_all_cons.1 h
    obtain ⟨gap, xs, rfl, hgap, h⟩ := reads_all_cons.1 h
    obtain rfl := reads_exactly.1 hword
    obtain rfl := reads_exactly.1 h
    refine ⟨gap, rfl, reads_spaces.1 hgap, ?_⟩
    have hedge' : isWordAt before.getLast? ≠ isWordAt (some 'i') := hedge
    rwa [hfirst, ne_eq, Bool.not_eq_true] at hedge'
  · intro h
    obtain ⟨gap, rfl, hgap, hedge⟩ := h
    refine ⟨?_, ?_⟩
    · have hedge' : isWordAt before.getLast? ≠ isWordAt (some 'i') := by simp [hedge, hfirst]
      exact hedge'
    · refine reads_all_cons.2 ⟨_, _, rfl, reads_exactly.2 rfl, ?_⟩
      exact reads_all_cons.2 ⟨gap, ['('], rfl, reads_spaces.2 hgap, reads_exactly.2 rfl⟩

theorem all_bne_of_not_mem {chars : List Char} {c : Char} (h : c ∉ chars) :
    chars.all (· != c) := by
  simpa [List.all_bne'] using h

theorem not_reopens_of_not_mem {text : List Char} (h : '(' ∉ text) : ¬ Reopens text := by
  intro hreopens
  obtain ⟨before, gap, after, rfl, -⟩ := hreopens
  exact h (by simp)

/-- A block of a text: where it opens, what it holds, and what comes after it. -/
structure IsBlock (text first gap body after : List Char) : Prop where
  text_eq : text = first ++ ("import".toList ++ (gap ++ '(' :: (body ++ ')' :: after)))
  edge : isWordAt first.getLast? = false
  unopened : '(' ∉ first
  gap : gap.all isSpace
  unclosed : ')' ∉ first ++ body
  last : ¬ Reopens (')' :: after)

variable {text first gap body : List Char}

namespace IsBlock

def Found (m : Match) (first gap body after : List Char) : Prop :=
  GroupMatch blockFirst blockBody [exactly ")"] m first ("import".toList ++ (gap ++ ['('])) body [')']
    after

/-- The match that goes over the start of the block is that of the block. -/
theorem exists_found (h : IsBlock text first gap body after) :
    ∃ m ∈ goBlockPattern.findAll text, Found m first gap body after := by
  have hbody : body.all (· != ')') :=
    all_bne_of_not_mem fun hmem => h.unclosed (List.mem_append_right first hmem)
  have hreading : GroupReading blockFirst blockBody [exactly ")"] first
      ("import".toList ++ (gap ++ ['('])) body [')'] after :=
    ⟨reads_blockFirst.2 ⟨gap, rfl, h.gap, h.edge⟩, ⟨hbody, Nat.zero_le _⟩, reads_exactly.2 rfl⟩
  have hreads : (all (blockFirst ++ group 1 blockBody :: [exactly ")"])).ReadsSome :=
    readsSome_of_mayReadNothing (by decide)
  obtain ⟨m, hm, first', xs, ys, zs, after', hgroup, left, right, rfl, hxs, hright, -⟩ :=
    exists_groupMatch_over rfl rfl rfl hreads (hreading.begins 1)
  obtain ⟨gap', rfl, hgap', -⟩ := reads_blockFirst.1 hgroup.reading.first
  obtain rfl := reads_exactly.1 hgroup.reading.last
  have hsplit : (left ++ ("import".toList ++ gap)) ++ '(' :: (body ++ ')' :: after) =
      ("import".toList ++ gap') ++ '(' :: (ys ++ ')' :: after') := by
    have hleft := congrArg (left ++ ·) hright
    simp only [← List.append_assoc left right, ← hxs] at hleft
    simpa using hleft
  have hopen {gap : List Char} (hgap : gap.all isSpace) : '(' ∉ "import".toList ++ gap := by
    simp [not_mem_of_all hgap (show isSpace '(' = false by decide)]
  have hleft : '(' ∉ left ++ ("import".toList ++ gap) := by
    have hunopened := h.unopened
    rw [List.mem_append, not_or] at hunopened ⊢
    exact ⟨hunopened.2, hopen h.gap⟩
  -- the first parenthesis is the same, and what comes before it, and so is what comes after it
  obtain ⟨hfront, hback⟩ := split_at_front hsplit (all_bne_of_not_mem hleft)
    (all_bne_of_not_mem (hopen hgap')) rfl rfl
  rw [← List.append_assoc] at hfront
  obtain ⟨hword, rfl⟩ := split_at_tail hfront h.gap hgap' (by simp; decide) (by decide)
  obtain rfl : left = [] := by
    have hlength := congrArg List.length hword
    rw [List.length_append] at hlength
    exact List.length_eq_zero_iff.1 (by omega)
  obtain ⟨rfl, hrest⟩ := split_at_front (List.cons.inj hback).2 hbody hgroup.reading.middle.1 rfl rfl
  obtain rfl := (List.cons.inj hrest).2
  refine ⟨m, ?_, ?_⟩
  · rw [h.text_eq, goBlockPattern_eq]
    simpa using hm
  · rw [Found, List.append_nil]
    exact hgroup

/-- No other match is found: before the block nothing opens one, and none is opened after it. -/
theorem found_of_mem (h : IsBlock text first gap body after) {m : Match}
    (hm : m ∈ goBlockPattern.findAll text) : Found m first gap body after := by
  obtain ⟨m₀, hm₀, hfound⟩ := h.exists_found
  have hwhole := hfound.whole_eq
  obtain ⟨before, xs, ys, zs, rest, htext, hgroup⟩ :=
    groupMatch_of_mem_findAll rfl rfl rfl (goBlockPattern_eq ▸ hm)
  obtain ⟨gap', rfl, hgap', hedge⟩ := reads_blockFirst.1 hgroup.reading.first
  rcases eq_or_apart hm₀ hm with rfl | hlate | hearly
  · exact hfound
  · rw [hwhole, hgroup.whole_eq] at hlate
    simp only [Place.between, List.length_append, List.length_cons, List.length_nil] at hlate
    obtain ⟨mid, rfl⟩ : first ++ ("import".toList ++ (gap ++ '(' :: body)) <+: before := by
      refine List.prefix_of_prefix_length_le ⟨')' :: after, ?_⟩ ⟨_, htext.symm⟩ ?_
      · rw [h.text_eq]
        simp
      · simp only [List.length_append, List.length_cons]
        omega
    have hmid : mid ≠ [] := by
      intro hnone
      subst hnone
      simp only [List.length_append, List.length_cons, List.length_nil] at hlate
      omega
    refine absurd ⟨mid, gap', ys ++ (zs ++ rest), ?_, hgap', ?_⟩ h.last
    · rw [h.text_eq] at htext
      simpa using htext
    · rwa [List.getLast?_append_of_ne_nil _ hmid] at hedge
  · rw [hwhole, hgroup.whole_eq] at hearly
    simp only [Place.between, List.length_append, List.length_cons, List.length_nil] at hearly
    have hwithin : before ++ ("import".toList ++ (gap' ++ ['('])) <+: first := by
      refine List.prefix_of_prefix_length_le ⟨ys ++ (zs ++ rest), ?_⟩ ⟨_, h.text_eq.symm⟩ ?_
      · rw [htext]
        simp
      · simp only [List.length_append, List.length_cons, List.length_nil]
        omega
    exact absurd (hwithin.subset (by simp)) h.unopened

/-- Blocks find what is found in the body of the one block. -/
theorem mem_blockTargets (h : IsBlock text first gap body after) {f : FoundImport} :
    f ∈ (goBlockPattern.findAll text).flatMap blockTargets ↔
      ∃ g ∈ targets goItemPattern body, f =
        { g with offset := (first ++ ("import".toList ++ (gap ++ ['(']))).length + g.offset } := by
  have hblock {m : Match} (hm : m ∈ goBlockPattern.findAll text) : blockTargets m =
      (targets goItemPattern body).map fun g =>
        { g with offset := (first ++ ("import".toList ++ (gap ++ ['(']))).length + g.offset } := by
    obtain ⟨g, hg, hchars, hoffset⟩ := (h.found_of_mem hm).exists_group
    rw [blockTargets, hg]
    dsimp only
    rw [hchars, hoffset]
  constructor
  · intro hf
    obtain ⟨m, hm, hf⟩ := List.mem_flatMap.1 hf
    rw [hblock hm] at hf
    obtain ⟨g, hg, rfl⟩ := List.mem_map.1 hf
    exact ⟨g, hg, rfl⟩
  · intro hf
    obtain ⟨g, hg, rfl⟩ := hf
    obtain ⟨m, hm, -⟩ := h.exists_found
    refine List.mem_flatMap.2 ⟨m, hm, ?_⟩
    rw [hblock hm]
    exact List.mem_map.2 ⟨g, hg, rfl⟩

end IsBlock

/-! ## The lines of the block -/

namespace BlockLine

/-- A line up to the first closing parenthesis of its comment. -/
def cut (l : BlockLine) : BlockLine :=
  { l with comment? := l.comment?.map (List.takeWhile (· != ')')) }

variable {l : BlockLine}

theorem wellFormed_cut (h : l.WellFormed) : l.cut.WellFormed := by
  refine ⟨h.spec, h.space, fun text htext => ?_⟩
  obtain ⟨whole, hwhole, rfl⟩ := Option.map_eq_some_iff.1 htext
  exact fun hmem => h.comment whole hwhole ((List.takeWhile_sublist _).subset hmem)

theorem chars_cut (h : l.closes) : ∃ after, l.chars = l.cut.chars ++ ')' :: after := by
  rw [closes, Option.any_eq_true] at h
  obtain ⟨text, htext, hmem⟩ := h
  obtain ⟨kept, after, rfl, hkept⟩ := List.eq_append_cons_of_mem (List.contains_iff_mem.1 hmem)
  have htake : (kept ++ ')' :: after).takeWhile (· != ')') = kept :=
    takeWhile_front (all_bne_of_not_mem hkept) rfl
  refine ⟨after, ?_⟩
  simp [chars, specChars, commentChars, cut, htext, htake]

theorem closes_cut : l.cut.closes = false := by
  rw [closes, cut]
  cases l.comment? with
  | none => rfl
  | some text =>
    have hall : (text.takeWhile (· != ')')).all (· != ')') := List.all_takeWhile
    simpa using not_mem_of_all hall (by decide)

theorem closing_not_mem (h : l.WellFormed) (hcloses : l.closes = false) : ')' ∉ l.chars := by
  have hspec : ')' ∉ l.specChars := by
    rw [specChars]
    cases hs : l.spec? with
    | none => exact List.not_mem_nil
    | some s =>
      have hspec := h.spec s hs
      simp [Spec.chars, Spec.lead, not_mem_of_all hspec.indent (show isBlank ')' = false by decide),
        not_mem_of_all hspec.name (show isAliasPart ')' = false by decide),
        not_mem_of_all hspec.gap (show isBlank ')' = false by decide),
        not_mem_of_all hspec.path (show isPathPart ')' = false by decide)]
  have hcomment : ')' ∉ l.commentChars := by
    rw [closes] at hcloses
    rw [commentChars]
    cases htext : l.comment? with
    | none => exact List.not_mem_nil
    | some text =>
      rw [htext] at hcloses
      simpa using hcloses
  simp [chars, hspec, hcomment, not_mem_of_all h.space (show isInline ')' = false by decide)]

end BlockLine

/-- The lines of a block up to the first closing parenthesis, which stands in a comment or on the
closing line. -/
def cutLines (closingIndent : List Char) : List BlockLine → List BlockLine
  | [] => [⟨none, closingIndent, none⟩]
  | l :: ls => if l.closes then [l.cut] else l :: cutLines closingIndent ls

variable {closingIndent : List Char} {ls : List BlockLine}

theorem cutLines_ne_nil : cutLines closingIndent ls ≠ [] := by
  fun_cases cutLines closingIndent ls
  · exact List.cons_ne_nil _ _
  · exact List.cons_ne_nil _ _
  · exact List.cons_ne_nil _ _

theorem of_mem_cutLines (hindent : closingIndent.all isInline) (h : AllWellFormed ls) {l : BlockLine}
    (hl : l ∈ cutLines closingIndent ls) : l.WellFormed ∧ l.closes = false := by
  induction ls with
  | nil =>
    obtain rfl := List.mem_singleton.1 hl
    exact ⟨⟨fun _ => nofun, hindent, fun _ => nofun⟩, rfl⟩
  | cons l' ls ih =>
    have hl' := h l' List.mem_cons_self
    rw [cutLines] at hl
    split at hl
    · obtain rfl := List.mem_singleton.1 hl
      exact ⟨BlockLine.wellFormed_cut hl', BlockLine.closes_cut⟩
    next hcloses =>
      rcases List.mem_cons.1 hl with rfl | hl
      · exact ⟨hl', by simpa using hcloses⟩
      · exact ih (fun k hk => h k (List.mem_cons_of_mem l' hk)) hl

theorem closing_not_mem_cutLines (hindent : closingIndent.all isInline) (h : AllWellFormed ls) :
    ')' ∉ blockText (cutLines closingIndent ls) := by
  refine not_mem_joinLines (by decide) fun line hline => ?_
  obtain ⟨l, hl, rfl⟩ := List.mem_map.1 hline
  obtain ⟨hwell, hcloses⟩ := of_mem_cutLines hindent h hl
  exact BlockLine.closing_not_mem hwell hcloses

theorem found_cutLines : (cutLines closingIndent ls).filterMap BlockLine.found? =
    (listed ls).filter Spec.isSeparated := by
  have hfound (l : BlockLine) : l.found?.toList = l.spec?.toList.filter Spec.isSeparated := by
    rw [BlockLine.found?]
    cases l.spec? with
    | none => rfl
    | some s => cases hs : s.isSeparated <;> simp [hs]
  have hcons (l : BlockLine) (ls : List BlockLine) : (l :: ls).filterMap BlockLine.found? =
      l.spec?.toList.filter Spec.isSeparated ++ ls.filterMap BlockLine.found? := by
    rw [← hfound, List.filterMap_cons]
    cases l.found? <;> rfl
  induction ls with
  | nil => rfl
  | cons l ls ih =>
    rw [cutLines, listed, List.filter_append]
    split
    · rw [hcons]
      rfl
    · rw [hcons, ih]

theorem joinLines_cutLines (closing : List Char) (tail : List (List Char)) :
    ∃ after, joinLines (ls.map BlockLine.chars ++ (closingIndent ++ ')' :: closing) :: tail) =
      blockText (cutLines closingIndent ls) ++ ')' :: after := by
  induction ls with
  | nil =>
    obtain ⟨after, hafter, -⟩ := exists_after_line (closingIndent ++ ')' :: closing) tail
    refine ⟨closing ++ after, ?_⟩
    rw [List.map_nil, List.nil_append, hafter]
    simp [blockText, cutLines, joinLines, BlockLine.chars, BlockLine.specChars,
      BlockLine.commentChars]
  | cons l ls ih =>
    obtain ⟨after, hafter⟩ := ih
    rw [List.map_cons, List.cons_append, joinLines_cons _ (by simp), hafter, cutLines]
    split
    next hcloses =>
      obtain ⟨lost, hcut⟩ := BlockLine.chars_cut hcloses
      refine ⟨lost ++ '\n' :: (blockText (cutLines closingIndent ls) ++ ')' :: after), ?_⟩
      rw [hcut, List.append_assoc]
      rfl
    next =>
      refine ⟨after, ?_⟩
      rw [blockText_cons l cutLines_ne_nil, List.append_assoc]
      rfl

/-! ## Imports outside of blocks -/

def singleFirst : List Pattern :=
  [lineStart, Definitions.indent, exactly "import", someSpace, aliasOption, goQuote]

theorem goSinglePattern_eq :
    goSinglePattern = all (singleFirst ++ group 1 pathBody :: [goQuote]) := rfl

theorem reads_singleFirst (h : (all singleFirst).Reads before xs after) :
    before.getLast?.all (· == '\n') ∧ ∃ indent gap c rest,
      xs = indent ++ ("import".toList ++ (gap ++ c :: rest)) ∧ indent.all isBlank ∧
        gap.all isSpace ∧ gap ≠ [] ∧ opensPath c := by
  obtain ⟨start, xs, rfl, ⟨rfl, hline⟩, h⟩ := reads_all_cons.1 h
  obtain ⟨indent, xs, rfl, hindent, h⟩ := reads_all_cons.1 h
  obtain ⟨word, xs, rfl, hword, h⟩ := reads_all_cons.1 h
  obtain ⟨gap, xs, rfl, hgap, h⟩ := reads_all_cons.1 h
  obtain ⟨front, xs, rfl, hfront, h⟩ := reads_all_cons.1 h
  obtain ⟨name, gap', rfl, hparts⟩ := reads_aliasOption.1 hfront
  obtain ⟨q, hq, rfl⟩ := reads_goQuote.1 h
  obtain rfl := reads_exactly.1 hword
  obtain ⟨hgap, hne⟩ := reads_someSpace.1 hgap
  obtain ⟨c, hhead, hc⟩ := opensPath_head? hparts.isAlias hparts.together.1 hq []
  obtain ⟨rest, hrest⟩ := List.head?_eq_some_iff.1 hhead
  refine ⟨hline, indent, gap, c, rest, ?_, reads_indent.1 hindent, hgap, hne, hc⟩
  rw [← hrest]
  simp

/-- The first word of a line, and dots in it. -/
def firstWord (chars : List Char) : List Char := (chars.dropWhile isInline).takeWhile isAliasPart

theorem firstWord_eq {indent word rest : List Char} (hindent : indent.all isInline)
    (hword : word.all isAliasPart) (hrest : rest.head?.all fun c => !isAliasPart c)
    (hnone : word = [] → rest.head?.all fun c => !isInline c) :
    firstWord (indent ++ (word ++ rest)) = word := by
  have hstart : (word ++ rest).head?.all fun c => !isInline c := by
    cases word with
    | nil => exact hnone rfl
    | cons c word =>
      have hspace := isSpace_of_isAliasPart (List.all_eq_true.1 hword c List.mem_cons_self)
      simp [isInline, hspace]
  rw [firstWord, dropWhile_front hindent hstart, takeWhile_front hword hrest]

theorem firstWord_import {indent gap rest : List Char} (hindent : indent.all isBlank)
    (hgap : gap.all isSpace) (hne : gap ≠ []) :
    firstWord (indent ++ ("import".toList ++ (gap ++ rest))) = "import".toList := by
  obtain ⟨c, gap, rfl⟩ := List.exists_cons_of_ne_nil hne
  have hc := isAliasPart_of_isSpace (List.all_eq_true.1 hgap c List.mem_cons_self)
  exact firstWord_eq (all_isInline_of_isBlank hindent) (by decide) (by simp [hc]) nofun

/-- A line whose first character after white space is no part of a word has no first word. -/
theorem firstWord_eq_nil {space rest : List Char} (hspace : space.all isInline)
    (hrest : ∀ c, rest.head? = some c → isAliasPart c = false ∧ isInline c = false) :
    firstWord (space ++ rest) = [] := by
  refine @firstWord_eq space [] rest hspace rfl ?_ fun _ => ?_
  · cases hc : rest.head? with
    | none => rfl
    | some c => simp [(hrest c hc).1]
  · cases hc : rest.head? with
    | none => rfl
    | some c => simp [(hrest c hc).2]

theorem firstWord_ne_import {l : BlockLine} (h : l.WellFormed) {rest : List Char}
    (hend : rest.head?.all (· == '\n')) : firstWord (l.chars ++ rest) ≠ "import".toList := by
  cases hs : l.spec? with
  | none =>
    have hmarks : ∀ c ∈ ['/', '\n'], isAliasPart c = false ∧ isInline c = false := by
      rw [List.forall_mem_cons, List.forall_mem_singleton]
      decide
    have hline : l.chars ++ rest = l.space ++ (l.commentChars ++ rest) := by
      simp [BlockLine.chars, BlockLine.specChars, hs]
    rw [hline, firstWord_eq_nil h.space fun c hc => hmarks c (BlockLine.head?_comment hend hc)]
    decide
  | some s =>
    have hspec := h.spec s hs
    have hline : l.chars ++ rest = s.indent ++ (s.name ++ (s.gap ++ '"' :: (s.path ++ '"' ::
        (l.space ++ (l.commentChars ++ rest))))) := by
      simp [BlockLine.chars, BlockLine.specChars, hs, Spec.chars, Spec.lead]
    have hquote : isGoQuote '"' := by decide
    rw [hline, firstWord_eq (all_isInline_of_isBlank hspec.indent) hspec.name
      (head?_gap (all_isSpace_of_isBlank hspec.gap) hquote _)]
    · exact hspec.not_keyword
    · intro hnone
      have hinline : isInline '"' = false := by decide
      simp [hspec.gap_eq_nil hnone, hinline]

/-! ## The text of the file -/

namespace BlockFile
variable {f : BlockFile}

theorem paren_not_mem_head (h : f.WellFormed) {c : Char} (hc : c ∈ ['(', ')', '\n'])
    {line : List Char} (hline : line ∈ f.head) : c ∉ line := by
  have hplain : ∀ c ∈ ['(', ')', '\n'], isInline c = false ∧ isWord c = false ∧
      c ∉ "package".toList := by
    rw [List.forall_mem_cons, List.forall_mem_cons, List.forall_mem_singleton]
    decide
  obtain ⟨hinline, hword, hpackage⟩ := hplain c hc
  rcases h.head line hline with ⟨gap, name, space, rfl, -, hgap, hname, hspace⟩ | hspace
  · simp only [List.mem_append, not_or]
    exact ⟨hpackage, not_mem_of_all hgap hinline, not_mem_of_all hname hword,
      not_mem_of_all hspace hinline⟩
  · exact not_mem_of_all hspace hinline

/-- What is read in the block: its lines, up to the first closing parenthesis. -/
def readLines (f : BlockFile) : List BlockLine :=
  ⟨none, f.space, none⟩ :: cutLines f.closingIndent f.lines

theorem wellFormed_readLines (h : f.WellFormed) : AllWellFormed f.readLines := by
  intro l hl
  rcases List.mem_cons.1 hl with rfl | hl
  · exact ⟨fun _ => nofun, h.space, fun _ => nofun⟩
  · exact (of_mem_cutLines h.closingIndent h.lines hl).1

/-- Some comment in the block holds a closing parenthesis. -/
def ClosesEarly (f : BlockFile) : Prop := ∃ l ∈ f.lines, l.closes

theorem not_closes (h : ¬ f.ClosesEarly) : ∀ l ∈ f.lines, l.closes = false := by
  intro l hl
  by_contra hcloses
  exact h ⟨l, hl, by simpa using hcloses⟩

theorem isBlock (h : f.WellFormed) (hlast : ¬ Reopens (f.text.dropWhile (· != ')'))) :
    ∃ after, IsBlock f.text (endedLines f.head) f.gap (blockText f.readLines) after := by
  have hhead {c : Char} (hc : c ∈ ['(', ')', '\n']) (hne : c ≠ '\n') : c ∉ endedLines f.head :=
    not_mem_endedLines hne fun line hline => paren_not_mem_head h hc hline
  have hgap : ')' ∉ f.gap := not_mem_of_all h.gap (by decide)
  have hspace : ')' ∉ f.space := not_mem_of_all h.space (by decide)
  have hbody : ')' ∉ blockText f.readLines := by
    rw [readLines, blockText_cons _ cutLines_ne_nil]
    simp [BlockLine.chars, BlockLine.specChars, BlockLine.commentChars, hspace,
      closing_not_mem_cutLines h.closingIndent h.lines]
  obtain ⟨after, hafter⟩ :=
    @joinLines_cutLines f.closingIndent f.lines f.closingSpace f.tail
  have htext : f.text = endedLines f.head ++ ("import".toList ++ (f.gap ++ '(' ::
      (blockText f.readLines ++ ')' :: after))) := by
    have hrest : f.restLines ≠ [] := by simp [restLines]
    have hjoin : joinLines f.restLines =
      blockText (cutLines f.closingIndent f.lines) ++ ')' :: after := hafter
    rw [text, joinLines_append, joinLines_cons _ hrest, hjoin, readLines,
      blockText_cons _ cutLines_ne_nil]
    simp [openingLine_eq, BlockLine.chars, BlockLine.specChars, BlockLine.commentChars]
  refine ⟨after, htext, ?_, hhead (by decide) (by decide), all_isSpace_of_isInline h.gap, ?_, ?_⟩
  · have hstart := getLast?_endedLines f.head
    cases hlast : (endedLines f.head).getLast? with
    | none => rfl
    | some c =>
      rw [hlast] at hstart
      obtain rfl : c = '\n' := by simpa using hstart
      decide
  · rw [List.mem_append, not_or]
    exact ⟨hhead (by decide) (by decide), hbody⟩
  · have hfront : ')' ∉ endedLines f.head ++ ("import".toList ++ (f.gap ++ '(' ::
        blockText f.readLines)) := by
      have hword : ')' ∉ "import".toList := by decide
      simp only [List.mem_append, List.mem_cons, not_or]
      exact ⟨hhead (by decide) (by decide), hword, hgap, by decide, hbody⟩
    have hdrop : f.text.dropWhile (· != ')') = ')' :: after := by
      have hsplit : f.text = (endedLines f.head ++ ("import".toList ++ (f.gap ++ '(' ::
          blockText f.readLines))) ++ ')' :: after := by
        rw [htext]
        simp
      rw [hsplit]
      exact dropWhile_front (all_bne_of_not_mem hfront) rfl
    rwa [hdrop] at hlast

/-- No line but the opening one starts with the word `import`. -/
theorem firstWord_of_mem (h : f.WellFormed) {line rest : List Char}
    (hline : line ∈ f.head ∨ line ∈ f.restLines) (hend : rest.head?.all (· == '\n')) :
    firstWord (line ++ rest) ≠ "import".toList := by
  have hafter : ∀ c, rest.head? = some c → isAliasPart c = false ∧ isInline c = false := by
    intro c hc
    rw [hc] at hend
    obtain rfl : c = '\n' := by simpa using hend
    decide
  have hblank {space : List Char} (hspace : space.all isInline) :
      firstWord (space ++ rest) ≠ "import".toList := by
    rw [firstWord_eq_nil hspace hafter]
    decide
  rcases hline with hline | hline
  · rcases h.head line hline with ⟨gap, name, space, rfl, hne, hgap, -, -⟩ | hspace
    · obtain ⟨c, gap, rfl⟩ := List.exists_cons_of_ne_nil hne
      have hc : isSpace c := (Bool.and_eq_true_iff.1 (List.all_eq_true.1 hgap c List.mem_cons_self)).1
      have hword := @firstWord_eq [] "package".toList (c :: gap ++ (name ++ space) ++ rest) rfl
        (by decide) (by simp [isAliasPart_of_isSpace hc]) nofun
      rw [List.nil_append, ← List.append_assoc] at hword
      rw [hword]
      decide
    · exact hblank hspace
  · rw [restLines, List.mem_append, List.mem_cons] at hline
    rcases hline with hline | rfl | hline
    · obtain ⟨l, hl, rfl⟩ := List.mem_map.1 hline
      exact firstWord_ne_import (h.lines l hl) hend
    · rw [closingLine, List.append_assoc, firstWord_eq_nil h.closingIndent]
      · decide
      · intro c hc
        obtain rfl : ')' = c := Option.some.inj hc
        decide
    · exact hblank (h.tail line hline)

theorem lineEnd_not_mem (h : f.WellFormed) {line : List Char}
    (hline : line ∈ f.head ++ f.openingLine :: f.restLines) : '\n' ∉ line := by
  have hblank {space : List Char} (hspace : space.all isInline) : '\n' ∉ space :=
    not_mem_of_all hspace (by decide)
  rw [List.mem_append, List.mem_cons] at hline
  rcases hline with hline | rfl | hline
  · exact paren_not_mem_head h (by decide) hline
  · simp [openingLine_eq, hblank h.gap, hblank h.space]
  · rw [restLines, List.mem_append, List.mem_cons] at hline
    rcases hline with hline | rfl | hline
    · obtain ⟨l, hl, rfl⟩ := List.mem_map.1 hline
      exact BlockLine.lineEnd_not_mem (h.lines l hl)
    · simp [closingLine, hblank h.closingIndent, hblank h.closingSpace]
    · exact hblank (h.tail line hline)

/-- Nothing is found outside of the block. -/
theorem singleTargets_eq_nil (h : f.WellFormed) (g : FoundImport) :
    g ∉ targets goSinglePattern f.text := by
  intro hg
  obtain ⟨m, hm, -⟩ := mem_targets.1 hg
  rw [goSinglePattern_eq] at hm
  obtain ⟨before, xs, ys, zs, after, htext, hgroup⟩ := groupMatch_of_mem_findAll rfl rfl rfl hm
  obtain ⟨hstart, indent, gap, c, rest, rfl, hindent, hgap, hne, hc⟩ :=
    reads_singleFirst hgroup.reading.first
  obtain ⟨front, line, back, hlines, rfl, hline⟩ :=
    exists_line_at (by simp) (fun l hl => lineEnd_not_mem h hl) htext hstart
  obtain ⟨after', hafter, hend⟩ := exists_after_line line back
  have hread : indent ++ ("import".toList ++ (gap ++ c :: (rest ++ (ys ++ (zs ++ after))))) =
      line ++ after' := by
    rw [← hafter, ← hline]
    simp
  have hspace : isSpace c = false := isSpace_of_opensPath hc
  have hmem : line ∈ f.head ++ f.openingLine :: f.restLines := by
    rw [hlines]
    simp
  rw [List.mem_append, List.mem_cons] at hmem
  rcases hmem with hmem | rfl | hmem
  · exact firstWord_of_mem h (.inl hmem) hend (hread ▸ firstWord_import hindent hgap hne)
  · -- after the word and white space comes the parenthesis, which starts no path
    have hopening : f.openingLine ++ after' =
        [] ++ ("import".toList ++ (f.gap ++ '(' :: (f.space ++ after'))) := by
      simp [openingLine_eq]
    rw [hopening] at hread
    have hparenthesis : isSpace '(' = false := by decide
    have hrest := (split_at_front hread hindent rfl (by simp [isBlank]) (by simp [isBlank])).2
    have hparen := (split_at_front (List.append_cancel_left hrest) hgap
      (all_isSpace_of_isInline h.gap) (by simp [hspace]) (by simp [hparenthesis])).2
    rw [(List.cons.inj hparen).1] at hc
    exact absurd hc (by decide)
  · exact firstWord_of_mem h (.inr hmem) hend (hread ▸ firstWord_import hindent hgap hne)

/-- Unless a comment closes the block, nothing opens another one after it. -/
theorem not_reopens (h : f.WellFormed) (hclosed : ¬ f.ClosesEarly) :
    ¬ Reopens (f.text.dropWhile (· != ')')) := by
  have hclosing : joinLines (f.closingLine :: f.tail) =
      f.closingIndent ++ ')' :: joinLines (f.closingSpace :: f.tail) := by
    have hline : f.closingLine = (f.closingIndent ++ [')']) ++ f.closingSpace := by
      simp [closingLine]
    rw [hline, joinLines_append_cons]
    simp
  have htext : f.text = (endedLines f.head ++ (f.openingLine ++ '\n' ::
      (endedLines (f.lines.map BlockLine.chars) ++ f.closingIndent))) ++
        ')' :: joinLines (f.closingSpace :: f.tail) := by
    have hrest : f.restLines ≠ [] := by simp [restLines]
    rw [text, joinLines_append, joinLines_cons _ hrest, restLines, joinLines_append, hclosing]
    simp
  have hinline {space : List Char} (hspace : space.all isInline) {c : Char}
      (hc : c ∈ ['(', ')']) : c ∉ space := by
    have hnone : ∀ c ∈ ['(', ')'], isInline c = false := by
      rw [List.forall_mem_cons, List.forall_mem_singleton]
      decide
    exact not_mem_of_all hspace (hnone c hc)
  have hlines : ')' ∉ endedLines (f.lines.map BlockLine.chars) := by
    refine not_mem_endedLines (by decide) fun line hline => ?_
    obtain ⟨l, hl, rfl⟩ := List.mem_map.1 hline
    exact BlockLine.closing_not_mem (h.lines l hl) (not_closes hclosed l hl)
  have hhead : ')' ∉ endedLines f.head :=
    not_mem_endedLines (by decide) fun line hline => paren_not_mem_head h (by decide) hline
  have hafter : '(' ∉ joinLines (f.closingSpace :: f.tail) := by
    refine not_mem_joinLines (by decide) fun line hline => ?_
    rcases List.mem_cons.1 hline with rfl | hline
    · exact hinline h.closingSpace (by decide)
    · exact hinline (h.tail line hline) (by decide)
  have hfront : ')' ∉ endedLines f.head ++ (f.openingLine ++ '\n' ::
      (endedLines (f.lines.map BlockLine.chars) ++ f.closingIndent)) := by
    simp [hhead, hlines, openingLine_eq, hinline h.gap, hinline h.space, hinline h.closingIndent]
  rw [htext, dropWhile_front (all_bne_of_not_mem hfront) rfl]
  exact not_reopens_of_not_mem (by simp [hafter])

theorem mem_foundIn (h : f.WellFormed) (hlast : ¬ Reopens (f.text.dropWhile (· != ')'))) :
    ∃ start, ∀ g, g ∈ foundIn f.text .go ↔ g ∈ findsFrom start f.readLines := by
  obtain ⟨after, hblock⟩ := isBlock h hlast
  refine ⟨(endedLines f.head ++ ("import".toList ++ (f.gap ++ ['(']))).length, fun g => ?_⟩
  have hlines := wellFormed_readLines h
  have hne : f.readLines ≠ [] := List.cons_ne_nil _ _
  rw [foundIn, List.mem_append, or_iff_right (singleTargets_eq_nil h g), hblock.mem_blockTargets,
    mem_findsFrom]
  constructor
  · intro hg
    obtain ⟨g, hg, rfl⟩ := hg
    obtain ⟨front, s, hline, hsep, rfl⟩ := foundOn_of_mem_targets hne hlines hg
    exact ⟨front, s, hline, hsep, by rw [Nat.zero_add]⟩
  · intro hg
    obtain ⟨front, s, hline, hsep, rfl⟩ := hg
    refine ⟨_, mem_targets_of_foundOn hlines ⟨hline, hsep, rfl⟩, ?_⟩
    rw [Nat.zero_add]

end BlockFile

theorem listed_prefix (ls : List BlockLine) : listed ls <+: ls.filterMap BlockLine.spec? := by
  induction ls with
  | nil => exact List.nil_prefix
  | cons l ls ih =>
    have hcons : (l :: ls).filterMap BlockLine.spec? =
        l.spec?.toList ++ ls.filterMap BlockLine.spec? := by
      rw [List.filterMap_cons]
      cases l.spec? <;> rfl
    rw [hcons, listed, List.prefix_append_right_inj]
    split
    · exact List.nil_prefix
    · exact ih

theorem listed_eq_filterMap {ls : List BlockLine} (h : ∀ l ∈ ls, l.closes = false) :
    listed ls = ls.filterMap BlockLine.spec? := by
  induction ls with
  | nil => rfl
  | cons l ls ih =>
    have hrest := ih fun k hk => h k (List.mem_cons_of_mem l hk)
    rw [listed, h l List.mem_cons_self, if_neg Bool.false_ne_true, hrest, List.filterMap_cons]
    cases l.spec? <;> rfl

theorem eraseDups_eq_append_iff (xs ys : List String) :
    xs.eraseDups = (xs ++ ys).eraseDups ↔ ∀ y ∈ ys, y ∈ xs := by
  rw [List.eraseDups_append, List.self_eq_append_right, List.eq_nil_iff_forall_not_mem]
  simp only [List.mem_eraseDups, List.removeAll, List.mem_filter, not_and]
  simp

end Imports

open Imports

/-- The imports of a file with one block are the paths of its specs up to the first comment with a
closing parenthesis, as that parenthesis ends the block; a spec is passed over if nothing stands
between its alias and its path. Without such comments and specs all paths are found. -/
theorem findImports_blockFile (f : BlockFile) (h : f.WellFormed)
    (hlast : f.ClosesEarly → ¬ Reopens (f.text.dropWhile (· != ')'))) (filename : String)
    (hgo : Language.ofFilename filename = .go) :
    findImports f.content filename =
      (((listed f.lines).filter Spec.isSeparated).map Spec.target).eraseDups ∧
    ((∀ s ∈ f.specs, s.isSeparated) →
      (¬ f.ClosesEarly → findImports f.content filename = (f.specs.map Spec.target).eraseDups) ∧
      (findImports f.content filename = (f.specs.map Spec.target).eraseDups ↔
        ∀ s ∈ f.specs, s.target ∈ (listed f.lines).map Spec.target)) := by
  have hreopens : ¬ Reopens (f.text.dropWhile (· != ')')) := by
    by_cases hclosed : f.ClosesEarly
    · exact hlast hclosed
    · exact f.not_reopens h hclosed
  obtain ⟨start, hmem⟩ := f.mem_foundIn h hreopens
  have hfollows : Follows (startByte f.content) (foundIn f.text .go) := by
    apply follows_startByte
    rw [BlockFile.content, String.toList_ofList]
    exact placed_foundIn f.text .go
  have hfound : (f.readLines.filterMap BlockLine.found?) =
      (listed f.lines).filter Spec.isSeparated := found_cutLines
  have himports : findImports f.content filename =
      (((listed f.lines).filter Spec.isSeparated).map Spec.target).eraseDups := by
    rw [findImports, hgo, BlockFile.content, String.toList_ofList,
      inOrder_eq_firsts hfollows (findsFrom_sorted start f.readLines) hmem, map_target_findsFrom,
      hfound, firsts_eq_eraseDups]
    simp
  refine ⟨himports, fun hsep => ?_⟩
  obtain ⟨lost, hlost⟩ := listed_prefix f.lines
  have hspecs : f.specs = listed f.lines ++ lost := hlost.symm
  have hlisted : (listed f.lines).filter Spec.isSeparated = listed f.lines := by
    rw [List.filter_eq_self]
    exact fun s hs => hsep s (hspecs ▸ List.mem_append_left lost hs)
  rw [himports, hlisted]
  refine ⟨fun hclosed => ?_, ?_⟩
  · rw [BlockFile.specs, listed_eq_filterMap (BlockFile.not_closes hclosed)]
  · rw [hspecs, List.map_append, eraseDups_eq_append_iff, List.forall_mem_map]
    constructor
    · intro hall s hs
      rcases List.mem_append.1 hs with hs | hs
      · exact List.mem_map_of_mem hs
      · exact hall s hs
    · intro hall s hs
      exact hall s (List.mem_append_right _ hs)

/-! ## A parenthesis in a comment -/

namespace Imports

/-- A block with two specs, the first with a comment that holds a closing parenthesis. -/
def remarkFile : BlockFile where
  head := ["package main".toList, []]
  gap := [' ']
  space := []
  lines := [
    ⟨some ⟨['\t'], [], [], "fmt".toList⟩, [' '], some " see (a)".toList⟩,
    ⟨some ⟨['\t'], [], [], "os".toList⟩, [], none⟩]
  closingIndent := []
  closingSpace := []
  tail := [[]]

theorem wellFormed_remarkFile : remarkFile.WellFormed := by
  have hname : ([] : List Char) ≠ "import".toList := by decide
  have hspec (path : List Char) (hpath : path.all isPathPart) (hne : path ≠ []) :
      Spec.WellFormed ⟨['\t'], [], [], path⟩ :=
    ⟨rfl, rfl, hname, rfl, fun _ => rfl, hpath, hne⟩
  refine ⟨?_, by decide, rfl, ?_, rfl, rfl, ?_⟩
  · intro line hline
    rcases List.mem_cons.1 hline with rfl | hline
    · exact .inl ⟨[' '], "main".toList, [], by decide, by decide, by decide, by decide, rfl⟩
    · obtain rfl := List.mem_singleton.1 hline
      exact .inr rfl
  · intro l hl
    rcases List.mem_cons.1 hl with rfl | hl
    · refine ⟨?_, by decide, ?_⟩
      · intro s hs
        obtain rfl := Option.some.inj hs
        exact hspec _ (by decide) (by decide)
      · intro text htext
        obtain rfl := Option.some.inj htext
        decide
    · obtain rfl := List.mem_singleton.1 hl
      refine ⟨?_, rfl, fun _ => nofun⟩
      intro s hs
      obtain rfl := Option.some.inj hs
      exact hspec _ (by decide) (by decide)
  · intro line hline
    obtain rfl := List.mem_singleton.1 hline
    rfl

end Imports

theorem findImports_blockFile_remarkFile :
    remarkFile.WellFormed ∧ remarkFile.ClosesEarly ∧
    ¬ Reopens (remarkFile.text.dropWhile (· != ')')) ∧ Language.ofFilename "main.go" = .go ∧
    findImports remarkFile.content "main.go" = ["fmt"] := by
  have hclosed : remarkFile.ClosesEarly := ⟨_, List.mem_cons_self, by decide⟩
  have hlast : ¬ Reopens (remarkFile.text.dropWhile (· != ')')) :=
    not_reopens_of_not_mem (by decide +kernel)
  have hgo : Language.ofFilename "main.go" = .go := by decide +kernel
  have himports :=
    (findImports_blockFile remarkFile wellFormed_remarkFile (fun _ => hlast) "main.go" hgo).1
  have htargets : (((listed remarkFile.lines).filter Spec.isSeparated).map Spec.target).eraseDups =
      ["fmt"] := by
    decide +kernel
  exact ⟨wellFormed_remarkFile, hclosed, hlast, hgo, himports.trans htargets⟩

/-- The second spec of the block is lost, though it is one of the block and has no alias. -/
theorem closing_remark_hides_import :
    remarkFile.WellFormed ∧
    remarkFile.content = "package main\n\nimport (\n\t\"fmt\" // see (a)\n\t\"os\"\n)\n" ∧
    (remarkFile.specs.map Spec.target).eraseDups = ["fmt", "os"] ∧
    findImports remarkFile.content "main.go" ≠ (remarkFile.specs.map Spec.target).eraseDups := by
  refine ⟨wellFormed_remarkFile, by decide +kernel, by decide +kernel, ?_⟩
  decide +kernel

end CodeSurvey

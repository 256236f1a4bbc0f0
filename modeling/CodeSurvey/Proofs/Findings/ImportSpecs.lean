import CodeSurvey.Proofs.Findings.ImportPlaces
import CodeSurvey.Proofs.Text.FoundMatches
import CodeSurvey.Proofs.Text.Lines
import CodeSurvey.Proofs.Text.MovedDown

/-!
# Lines of import specs

The lines of a block of imports, each with a spec, a comment, both or neither, and what is found
in them: the paths of the specs, whatever the comments hold. An alias is only seen if white space
comes after it.
-/

namespace CodeSurvey.Imports
open Text Text.Pattern

/-! ## Specs and their lines -/

/-- A character of an identifier, or the dot that stands for one. -/
def isAliasPart (c : Char) : Bool := isWord c || c == '.'

def isPathPart (c : Char) : Bool := isAlphanumeric c || ['.', '-', '_', '/'].contains c

def isUnquoted (c : Char) : Bool := c != '"' && c != '\x60'

/-- A character that an alias or a path in quotes starts with. -/
def opensPath (c : Char) : Bool := isAliasPart c || isGoQuote c

structure Spec where
  indent : List Char
  /-- The alias; a spec without one has no characters here nor in the gap. -/
  name : List Char
  gap : List Char
  path : List Char

namespace Spec

/-- All that comes before the path. -/
def lead (s : Spec) : List Char := s.indent ++ (s.name ++ (s.gap ++ ['"']))

def chars (s : Spec) : List Char := s.lead ++ (s.path ++ ['"'])

def target (s : Spec) : String := String.ofList s.path

/-- White space comes between the alias and the path. -/
def isSeparated (s : Spec) : Bool := s.name.isEmpty || !s.gap.isEmpty

structure WellFormed (s : Spec) : Prop where
  indent : s.indent.all isBlank
  name : s.name.all isAliasPart
  not_keyword : s.name ≠ "import".toList
  gap : s.gap.all isBlank
  gap_eq_nil : s.name = [] → s.gap = []
  path : s.path.all isPathPart
  path_ne_nil : s.path ≠ []

end Spec

structure BlockLine where
  spec? : Option Spec
  /-- White space before the comment or the end of the line. -/
  space : List Char
  comment? : Option (List Char)

namespace BlockLine

def specChars (l : BlockLine) : List Char := l.spec?.elim [] Spec.chars

def commentChars (l : BlockLine) : List Char := l.comment?.elim [] ("//".toList ++ ·)

def chars (l : BlockLine) : List Char := l.specChars ++ (l.space ++ l.commentChars)

structure WellFormed (l : BlockLine) : Prop where
  spec : ∀ s ∈ l.spec?, s.WellFormed
  space : l.space.all isInline
  comment : ∀ text ∈ l.comment?, '\n' ∉ text

end BlockLine

/-! ## Characters -/

theorem isAliasPart_of_isSpace {c : Char} (h : isSpace c) : isAliasPart c = false := by
  have hdot : c ≠ '.' := by
    intro heq
    rw [heq] at h
    cases h
  rw [isAliasPart, isWord_of_isSpace h]
  simpa using hdot

theorem isSpace_of_isAliasPart {c : Char} (h : isAliasPart c) : isSpace c = false := by
  by_contra hnot
  rw [isAliasPart_of_isSpace (by simpa using hnot)] at h
  cases h

theorem eq_of_isGoQuote {c : Char} (h : isGoQuote c) : c = '"' ∨ c = '\x60' := by
  simpa [isGoQuote] using h

theorem apart_of_isGoQuote {c : Char} (h : isGoQuote c) :
    isSpace c = false ∧ isAliasPart c = false ∧ isUnquoted c = false := by
  rcases eq_of_isGoQuote h with rfl | rfl
  · decide
  · decide

theorem isSpace_of_opensPath {c : Char} (h : opensPath c) : isSpace c = false := by
  rcases Bool.or_eq_true_iff.1 h with hpart | hquote
  · exact isSpace_of_isAliasPart hpart
  · exact (apart_of_isGoQuote hquote).1

theorem isBlank_of_opensPath {c : Char} (h : opensPath c) : isBlank c = false := by
  by_contra hblank
  have hspace := isSpace_of_isBlank (show isBlank c by simpa using hblank)
  rw [isSpace_of_opensPath h] at hspace
  cases hspace

theorem Spec.WellFormed.isUnquoted_path {s : Spec} (h : s.WellFormed) : s.path.all isUnquoted := by
  rw [List.all_eq_true]
  intro c hc
  have hquote : c ≠ '"' := fun heq => not_mem_of_all h.path (by decide) (heq ▸ hc)
  have htick : c ≠ '\x60' := fun heq => not_mem_of_all h.path (by decide) (heq ▸ hc)
  simp [isUnquoted, hquote, htick]

/-! ## Paths in quotes, maybe after an alias -/

/-- An alias and white space after it, or neither. -/
structure AliasParts (name gap : List Char) : Prop where
  isAlias : name.all isAliasPart
  isGap : gap.all isSpace
  together : name = [] ↔ gap = []

def aliasOption : Pattern := optional (seq (run (fun c => isWord c || c == '.') 1) someSpace)

def goQuote : Pattern := oneOf "\"\x60"

def pathBody : Pattern := run (fun c => c != '"' && c != '\x60') 1

variable {before xs ys zs after : List Char}

theorem reads_aliasOption {chars : List Char} : aliasOption.Reads before chars after ↔
    ∃ name gap, chars = name ++ gap ∧ AliasParts name gap := by
  rw [aliasOption, reads_optional, reads_seq]
  constructor
  · intro h
    rcases h with ⟨name, gap, rfl, ⟨hname, hleast⟩, hgap⟩ | rfl
    · obtain ⟨hgap, hne⟩ := reads_someSpace.1 hgap
      have hne' := List.length_pos_iff.1 hleast
      exact ⟨name, gap, rfl, hname, hgap, iff_of_false hne' hne⟩
    · exact ⟨[], [], rfl, rfl, rfl, Iff.rfl⟩
  · intro h
    obtain ⟨name, gap, rfl, hname, hgap, htogether⟩ := h
    by_cases hnone : name = []
    · exact .inr (by rw [hnone, htogether.1 hnone]; rfl)
    · refine .inl ⟨name, gap, rfl, ⟨hname, List.length_pos_iff.2 hnone⟩, ?_⟩
      exact reads_someSpace.2 ⟨hgap, fun h => hnone (htogether.2 h)⟩

theorem Spec.WellFormed.aliasParts {s : Spec} (h : s.WellFormed) (hs : s.isSeparated) :
    AliasParts s.name s.gap := by
  refine ⟨h.name, all_isSpace_of_isBlank h.gap, h.gap_eq_nil, fun hgap => ?_⟩
  simpa [isSeparated, hgap] using hs

theorem opensPath_head? {name gap : List Char} {q : Char} (hname : name.all isAliasPart)
    (hnone : name = [] → gap = []) (hq : isGoQuote q) (rest : List Char) :
    ∃ c, (name ++ (gap ++ q :: rest)).head? = some c ∧ opensPath c := by
  cases name with
  | nil =>
    rw [hnone rfl]
    exact ⟨q, rfl, by rw [opensPath, hq, Bool.or_true]⟩
  | cons c name =>
    exact ⟨c, rfl, by rw [opensPath, List.all_eq_true.1 hname c List.mem_cons_self, Bool.true_or]⟩

theorem head?_gap {gap : List Char} (hgap : gap.all isSpace) {q : Char} (hq : isGoQuote q)
    (rest : List Char) : (gap ++ q :: rest).head?.all fun c => !isAliasPart c := by
  cases gap with
  | nil => simp [(apart_of_isGoQuote hq).2.1]
  | cons c gap =>
    simp [isAliasPart_of_isSpace (List.all_eq_true.1 hgap c List.mem_cons_self)]

/-- What is read as a path in quotes, maybe after an alias, is a spec if it starts where one
does. -/
theorem Spec.WellFormed.eq_of_parts {s : Spec} (h : s.WellFormed) {name gap path : List Char}
    {q q' : Char} (hparts : AliasParts name gap) (hq : isGoQuote q) (hpath : path.all isUnquoted)
    (hq' : isGoQuote q') {rest after : List Char}
    (heq : name ++ (gap ++ q :: (path ++ q' :: after)) =
      s.name ++ (s.gap ++ '"' :: (s.path ++ '"' :: rest))) :
    s.isSeparated ∧ name = s.name ∧ gap = s.gap ∧ q = '"' ∧ path = s.path ∧ q' = '"' ∧
      after = rest := by
  have hgap := all_isSpace_of_isBlank h.gap
  have hquote : isGoQuote '"' := by decide
  obtain ⟨hname, heq⟩ := split_at_front heq hparts.isAlias h.name (head?_gap hparts.isGap hq _)
    (head?_gap hgap hquote _)
  obtain ⟨hgaps, heq⟩ := split_at_front heq hparts.isGap hgap (by simp [(apart_of_isGoQuote hq).1])
    (by simp [(apart_of_isGoQuote hquote).1])
  obtain ⟨hquotes, heq⟩ := List.cons.inj heq
  obtain ⟨hpaths, heq⟩ := split_at_front heq hpath h.isUnquoted_path
    (by simp [(apart_of_isGoQuote hq').2.2]) (by simp [(apart_of_isGoQuote hquote).2.2])
  obtain ⟨hquotes', heq⟩ := List.cons.inj heq
  refine ⟨?_, hname, hgaps, hquotes, hpaths, hquotes', heq⟩
  have htogether := hparts.together
  rw [hname, hgaps] at htogether
  by_cases hnone : s.name = []
  · simp [Spec.isSeparated, hnone]
  · have hsome : s.gap ≠ [] := fun hgap => hnone (htogether.2 hgap)
    simp [Spec.isSeparated, hsome]

/-! ## The pattern of items -/

def itemFirst : List Pattern := [lineStart, Definitions.indent, aliasOption, goQuote]

theorem goItemPattern_eq : goItemPattern = all (itemFirst ++ group 1 pathBody :: [goQuote]) := rfl

theorem reads_indent {chars : List Char} :
    Definitions.indent.Reads before chars after ↔ chars.all isBlank := by
  rw [Definitions.indent, Reads, and_iff_left (Nat.zero_le _)]
  rfl

theorem reads_goQuote {chars : List Char} :
    goQuote.Reads before chars after ↔ ∃ q, isGoQuote q ∧ chars = [q] := Iff.rfl

theorem reads_itemFirst : (all itemFirst).Reads before xs after ↔
    before.getLast?.all (· == '\n') ∧ ∃ indent name gap q,
      xs = indent ++ (name ++ (gap ++ [q])) ∧ indent.all isBlank ∧ AliasParts name gap ∧
        isGoQuote q := by
  constructor
  · intro h
    obtain ⟨start, xs, rfl, ⟨rfl, hline⟩, h⟩ := reads_all_cons.1 h
    obtain ⟨indent, xs, rfl, hindent, h⟩ := reads_all_cons.1 h
    obtain ⟨front, xs, rfl, hfront, h⟩ := reads_all_cons.1 h
    obtain ⟨name, gap, rfl, hparts⟩ := reads_aliasOption.1 hfront
    obtain ⟨q, hq, rfl⟩ := reads_goQuote.1 h
    exact ⟨hline, indent, name, gap, q, by simp, reads_indent.1 hindent, hparts, hq⟩
  · intro h
    obtain ⟨hline, indent, name, gap, q, rfl, hindent, hparts, hq⟩ := h
    refine reads_all_cons.2 ⟨[], _, rfl, ⟨rfl, hline⟩, ?_⟩
    refine reads_all_cons.2 ⟨indent, _, rfl, reads_indent.2 hindent, ?_⟩
    refine reads_all_cons.2 ⟨name ++ gap, [q], by simp, ?_, q, hq, rfl⟩
    exact reads_aliasOption.2 ⟨name, gap, rfl, hparts⟩

/-! ## Items on their lines -/

theorem Spec.lineEnd_not_mem {s : Spec} (h : s.WellFormed) : '\n' ∉ s.chars := by
  have hindent : '\n' ∉ s.indent := not_mem_of_all h.indent (by decide)
  have hname : '\n' ∉ s.name := not_mem_of_all h.name (by decide)
  have hgap : '\n' ∉ s.gap := not_mem_of_all h.gap (by decide)
  have hpath : '\n' ∉ s.path := not_mem_of_all h.path (by decide)
  simp [chars, lead, hindent, hname, hgap, hpath]

namespace BlockLine
variable {l : BlockLine}

theorem lineEnd_not_mem (h : l.WellFormed) : '\n' ∉ l.chars := by
  have hspec : '\n' ∉ l.specChars := by
    rw [specChars]
    cases hs : l.spec? with
    | none => exact List.not_mem_nil
    | some s => exact Spec.lineEnd_not_mem (h.spec s hs)
  have hspace : '\n' ∉ l.space := not_mem_of_all h.space (by decide)
  have hcomment : '\n' ∉ l.commentChars := by
    rw [commentChars]
    cases htext : l.comment? with
    | none => exact List.not_mem_nil
    | some text => simp [h.comment text htext]
  simp [chars, hspec, hspace, hcomment]

/-- A comment or the end of the line comes after the white space. -/
theorem head?_comment {after : List Char} (hend : after.head?.all (· == '\n')) {c : Char}
    (hc : (l.commentChars ++ after).head? = some c) : c ∈ ['/', '\n'] := by
  rw [commentChars] at hc
  cases htext : l.comment? with
  | some text =>
    rw [htext] at hc
    cases hc
    exact List.mem_cons_self
  | none =>
    rw [htext] at hc
    have hc' : after.head? = some c := hc
    rw [hc'] at hend
    obtain rfl : c = '\n' := by simpa using hend
    decide

/-- What is read as an item at the start of a line is the spec there. -/
theorem spec_of_parts (h : l.WellFormed) {indent name gap path : List Char} {q q' : Char}
    (hindent : indent.all isBlank) (hparts : AliasParts name gap) (hq : isGoQuote q)
    (hpath : path.all isUnquoted) (hq' : isGoQuote q') {after rest : List Char}
    (hend : after.head?.all (· == '\n'))
    (heq : indent ++ (name ++ (gap ++ q :: (path ++ q' :: rest))) = l.chars ++ after) :
    ∃ s, l.spec? = some s ∧ s.isSeparated ∧ indent ++ (name ++ (gap ++ [q])) = s.lead ∧
      path = s.path ∧ q' = '"' := by
  obtain ⟨c, hhead, hc⟩ := opensPath_head? hparts.isAlias hparts.together.1 hq (path ++ q' :: rest)
  have hspace := isSpace_of_opensPath hc
  cases hs : l.spec? with
  | none =>
    -- neither a comment nor the end of a line can be the start of a path
    have hnone : ∀ d ∈ ['/', '\n'], isInline d = false ∧ opensPath d = false := by
      rw [List.forall_mem_cons, List.forall_mem_singleton]
      decide
    have hafter : (l.commentChars ++ after).head?.all fun d => !isInline d := by
      cases hd : (l.commentChars ++ after).head? with
      | none => rfl
      | some d => simp [(hnone d (head?_comment hend hd)).1]
    have hline : l.chars ++ after = l.space ++ (l.commentChars ++ after) := by
      simp [chars, specChars, hs]
    rw [hline] at heq
    have hsplit := split_at_front heq (all_isInline_of_isBlank hindent) h.space
      (by simp [hhead, isInline, hspace]) hafter
    rw [hsplit.2] at hhead
    rw [(hnone c (head?_comment hend hhead)).2] at hc
    cases hc
  | some s =>
    have hspec := h.spec s hs
    have hline : l.chars ++ after = s.indent ++ (s.name ++ (s.gap ++ '"' :: (s.path ++ '"' ::
        (l.space ++ (l.commentChars ++ after))))) := by
      simp [chars, specChars, hs, Spec.chars, Spec.lead]
    obtain ⟨d, hhead', hd⟩ := opensPath_head? (q := '"') hspec.name hspec.gap_eq_nil (by decide)
      (s.path ++ '"' :: (l.space ++ (l.commentChars ++ after)))
    rw [hline] at heq
    obtain ⟨hindents, hrest⟩ := split_at_front heq hindent hspec.indent
      (by simp [hhead, isBlank_of_opensPath hc]) (by simp [hhead', isBlank_of_opensPath hd])
    obtain ⟨hsep, rfl, rfl, rfl, rfl, rfl, -⟩ := hspec.eq_of_parts hparts hq hpath hq' hrest
    exact ⟨s, rfl, hsep, by rw [hindents]; rfl, rfl, rfl⟩

end BlockLine

/-! ## Lines in a row -/

/-- The text of some lines. -/
def blockText (ls : List BlockLine) : List Char := joinLines (ls.map BlockLine.chars)

/-- The text of some lines with their line ends. -/
def textBefore (ls : List BlockLine) : List Char := endedLines (ls.map BlockLine.chars)

def AllWellFormed (ls : List BlockLine) : Prop := ∀ l ∈ ls, l.WellFormed

variable {ls : List BlockLine}

theorem blockText_cons (l : BlockLine) (h : ls ≠ []) :
    blockText (l :: ls) = l.chars ++ '\n' :: blockText ls :=
  joinLines_cons l.chars (by simpa using h)

theorem blockText_append (front : List BlockLine) (l : BlockLine) (back : List BlockLine) :
    ∃ after, blockText (front ++ l :: back) = textBefore front ++ (l.chars ++ after) ∧
      after.head?.all (· == '\n') := by
  obtain ⟨after, hafter, hend⟩ := exists_after_line l.chars (back.map BlockLine.chars)
  refine ⟨after, ?_, hend⟩
  rw [blockText, List.map_append, List.map_cons, joinLines_append, hafter]
  rfl

theorem exists_blockLine_at (hne : ls ≠ []) (hls : AllWellFormed ls) {rest : List Char}
    (h : blockText ls = before ++ rest) (hstart : before.getLast?.all (· == '\n')) :
    ∃ front l back, ls = front ++ l :: back ∧ before = textBefore front ∧
      ∃ after, rest = l.chars ++ after ∧ after.head?.all (· == '\n') := by
  have hlines : ∀ line ∈ ls.map BlockLine.chars, '\n' ∉ line := by
    intro line hline
    obtain ⟨l, hl, rfl⟩ := List.mem_map.1 hline
    exact BlockLine.lineEnd_not_mem (hls l hl)
  obtain ⟨front', line, back', hsplit, rfl, rfl⟩ :=
    exists_line_at (by simpa using hne) hlines h hstart
  obtain ⟨front, rest', rfl, rfl, hrest⟩ := List.map_eq_append_iff.1 hsplit
  obtain ⟨l, back, rfl, rfl, rfl⟩ := List.map_eq_cons_iff.1 hrest
  exact ⟨front, l, back, rfl, rfl, exists_after_line l.chars (back.map BlockLine.chars)⟩

/-- What is read as an item on a line is its spec. -/
theorem spec_of_groupReading {l : BlockLine} (hl : l.WellFormed) {rest : List Char}
    (hend : rest.head?.all (· == '\n')) (htext : xs ++ (ys ++ (zs ++ after)) = l.chars ++ rest)
    (h : GroupReading itemFirst pathBody [goQuote] before xs ys zs after) :
    ∃ s, l.spec? = some s ∧ s.isSeparated ∧ xs = s.lead ∧ ys = s.path ∧ zs = ['"'] := by
  obtain ⟨-, indent, name, gap, q, rfl, hindent, hparts, hq⟩ := reads_itemFirst.1 h.first
  obtain ⟨q', hq', rfl⟩ := reads_goQuote.1 h.last
  have heq : indent ++ (name ++ (gap ++ q :: (ys ++ q' :: after))) = l.chars ++ rest := by
    rw [← htext]
    simp
  obtain ⟨s, hs, hsep, hlead, rfl, rfl⟩ :=
    BlockLine.spec_of_parts hl hindent hparts hq h.middle.1 hq' hend heq
  exact ⟨s, hs, hsep, hlead, rfl, rfl⟩

/-- A find is that of a separated spec on one of some lines, which start at a place of the text. -/
structure FoundOn (start : Nat) (ls front : List BlockLine) (s : Spec) (f : FoundImport) : Prop where
  line : ∃ l back, ls = front ++ l :: back ∧ l.spec? = some s
  separated : s.isSeparated
  find_eq : f = ⟨start + (textBefore front ++ s.lead).length, s.target⟩

theorem foundOn_of_mem_targets (hne : ls ≠ []) (hls : AllWellFormed ls) {f : FoundImport}
    (hf : f ∈ targets goItemPattern (blockText ls)) : ∃ front s, FoundOn 0 ls front s f := by
  obtain ⟨m, hm, g, hg, rfl⟩ := mem_targets.1 hf
  rw [goItemPattern_eq] at hm
  obtain ⟨before, xs, ys, zs, after, htext, hgroup⟩ := groupMatch_of_mem_findAll rfl rfl rfl hm
  have hstart := (reads_itemFirst.1 hgroup.reading.first).1
  obtain ⟨front, l, back, rfl, rfl, rest, hrest, hend⟩ := exists_blockLine_at hne hls htext hstart
  obtain ⟨s, hs, hsep, rfl, rfl, rfl⟩ :=
    spec_of_groupReading (hls l (by simp)) hend hrest hgroup.reading
  obtain ⟨g', hg', hchars, hoffset⟩ := hgroup.exists_group
  obtain rfl : g = g' := Option.some.inj (hg.symm.trans hg')
  exact ⟨front, s, ⟨l, back, rfl, hs⟩, hsep, by rw [hoffset, Stretch.text, hchars, Nat.zero_add]; rfl⟩

theorem groupReading_of_spec {s : Spec} (h : s.WellFormed) (hsep : s.isSeparated)
    (hstart : before.getLast?.all (· == '\n')) (after : List Char) :
    GroupReading itemFirst pathBody [goQuote] before s.lead s.path ['"'] after := by
  have hquote : isGoQuote '"' := by decide
  refine ⟨reads_itemFirst.2 ⟨hstart, _, _, _, '"', rfl, h.indent, h.aliasParts hsep, hquote⟩, ?_, ?_⟩
  · exact ⟨h.isUnquoted_path, List.length_pos_iff.2 h.path_ne_nil⟩
  · exact reads_goQuote.2 ⟨'"', hquote, rfl⟩

theorem mem_targets_of_foundOn (hls : AllWellFormed ls) {f : FoundImport} {front : List BlockLine}
    {s : Spec} (h : FoundOn 0 ls front s f) : f ∈ targets goItemPattern (blockText ls) := by
  obtain ⟨⟨l, back, rfl, hs⟩, hsep, rfl⟩ := h
  have hl := hls l (by simp)
  have hspec := hl.spec s hs
  have hstart : (textBefore front).getLast?.all (· == '\n') := getLast?_endedLines _
  obtain ⟨rest, htext, hend⟩ := blockText_append front l back
  have hchars : l.chars ++ rest =
      s.lead ++ (s.path ++ (['"'] ++ (l.space ++ (l.commentChars ++ rest)))) := by
    simp [BlockLine.chars, BlockLine.specChars, hs, Spec.chars]
  have hbegins := (groupReading_of_spec hspec hsep hstart
    (l.space ++ (l.commentChars ++ rest))).begins 1
  rw [← hchars] at hbegins
  have hreads : (all (itemFirst ++ group 1 pathBody :: [goQuote])).ReadsSome :=
    readsSome_of_mayReadNothing (by decide)
  obtain ⟨m, hm, first, xs, ys, zs, after, hgroup, left, right, hbefore, hxs, hright, -⟩ :=
    exists_groupMatch_over rfl rfl rfl hreads hbegins
  rw [← htext, ← goItemPattern_eq] at hm
  -- the match that goes over the start of the line stays on one line, so it starts there
  have hfirst : left = [] := by
    have htext' : blockText (front ++ l :: back) = first ++ (xs ++ (ys ++ (zs ++ after))) := by
      rw [htext, hbefore, hright, List.append_assoc, ← List.append_assoc left, ← hxs]
      simp
    obtain ⟨front', l', back', hls', -, rest', hrest', hend'⟩ :=
      exists_blockLine_at (by simp) hls htext' (reads_itemFirst.1 hgroup.reading.first).1
    have hl' := hls l' (by rw [hls']; simp)
    obtain ⟨s', hs', -, rfl, rfl, rfl⟩ := spec_of_groupReading hl' hend' hrest' hgroup.reading
    cases hlast : left.getLast? with
    | none => exact List.getLast?_eq_none_iff.1 hlast
    | some c =>
      rw [hbefore, List.getLast?_append, hlast] at hstart
      obtain rfl : c = '\n' := by simpa using hstart
      have hmem : '\n' ∈ s'.chars := by
        rw [Spec.chars, ← List.append_assoc, hxs]
        exact List.mem_append_left right (List.mem_of_getLast? hlast)
      exact absurd hmem (Spec.lineEnd_not_mem (hl'.spec s' hs'))
  subst hfirst
  rw [List.append_nil] at hbefore
  rw [List.nil_append] at hxs
  subst hbefore
  obtain ⟨s', hs', -, rfl, rfl, rfl⟩ := spec_of_groupReading hl hend
    (by rw [hright, ← hxs]; simp) hgroup.reading
  obtain rfl : s = s' := Option.some.inj (hs.symm.trans hs')
  obtain ⟨g, hg, hpath, hoffset⟩ := hgroup.exists_group
  exact mem_targets.2 ⟨m, hm, g, hg, by rw [hoffset, Stretch.text, hpath, Nat.zero_add]; rfl⟩

/-! ## Finds in order -/

/-- The separated spec of a line. -/
def BlockLine.found? (l : BlockLine) : Option Spec := l.spec?.filter Spec.isSeparated

/-- What is found on some lines, from some place of the text on. -/
def findsFrom : Nat → List BlockLine → List FoundImport
  | _, [] => []
  | n, l :: ls =>
    (l.found?.toList.map fun s => ⟨n + s.lead.length, s.target⟩) ++
      findsFrom (n + l.chars.length + 1) ls

theorem textBefore_cons (l : BlockLine) (front : List BlockLine) (chars : List Char) :
    (textBefore (l :: front) ++ chars).length =
      l.chars.length + 1 + (textBefore front ++ chars).length := by
  rw [textBefore, List.map_cons, endedLines_cons, ← textBefore]
  simp only [List.length_append, List.length_cons]
  omega

theorem mem_findsFrom {n : Nat} {f : FoundImport} :
    f ∈ findsFrom n ls ↔ ∃ front s, FoundOn n ls front s f := by
  induction ls generalizing n with
  | nil =>
    constructor
    · intro h
      cases h
    · intro h
      obtain ⟨front, s, ⟨l, back, hnil, -⟩, -⟩ := h
      simp at hnil
  | cons l ls ih =>
    rw [findsFrom, List.mem_append, ih, List.mem_map]
    constructor
    · intro h
      rcases h with ⟨s, hs, rfl⟩ | ⟨front, s, ⟨l', back, rfl, hs⟩, hsep, rfl⟩
      · obtain ⟨hs, hsep⟩ := Option.filter_eq_some_iff.1 (Option.mem_toList.1 hs)
        exact ⟨[], s, ⟨l, ls, rfl, hs⟩, hsep, rfl⟩
      · refine ⟨l :: front, s, ⟨l', back, rfl, hs⟩, hsep, ?_⟩
        rw [textBefore_cons, Nat.add_assoc n, Nat.add_assoc n]
    · intro h
      obtain ⟨front, s, ⟨l', back, hls, hs⟩, hsep, rfl⟩ := h
      cases front with
      | nil =>
        obtain ⟨rfl, rfl⟩ := List.cons.inj hls
        exact .inl ⟨s, Option.mem_toList.2 (Option.filter_eq_some_iff.2 ⟨hs, hsep⟩), rfl⟩
      | cons l₁ front =>
        obtain ⟨rfl, rfl⟩ := List.cons.inj hls
        refine .inr ⟨front, s, ⟨l', back, rfl, hs⟩, hsep, ?_⟩
        rw [textBefore_cons, Nat.add_assoc n, Nat.add_assoc n]

theorem map_target_findsFrom (n : Nat) (ls : List BlockLine) :
    (findsFrom n ls).map FoundImport.target = (ls.filterMap BlockLine.found?).map Spec.target := by
  induction ls generalizing n with
  | nil => rfl
  | cons l ls ih =>
    rw [findsFrom, List.map_append, ih, List.map_map, List.filterMap_cons]
    cases l.found? with
    | none => rfl
    | some s => rfl

theorem findsFrom_sorted (n : Nat) (ls : List BlockLine) :
    (findsFrom n ls).Pairwise fun f g => f.offset ≤ g.offset := by
  induction ls generalizing n with
  | nil => exact .nil
  | cons l ls ih =>
    rw [findsFrom]
    refine List.pairwise_append.2 ⟨?_, ih _, ?_⟩
    · cases l.found? with
      | none => exact .nil
      | some s => exact List.pairwise_singleton _ _
    · intro f hf g hg
      obtain ⟨s, hs, rfl⟩ := List.mem_map.1 hf
      obtain ⟨hs, -⟩ := Option.filter_eq_some_iff.1 (Option.mem_toList.1 hs)
      obtain ⟨front, s', -, -, rfl⟩ := mem_findsFrom.1 hg
      have hlead : s.lead.length ≤ l.chars.length := by
        simp [BlockLine.chars, BlockLine.specChars, hs, Spec.chars]
      dsimp only
      omega

end CodeSurvey.Imports

import CodeSurvey.Proofs.Definitions.CodeSlices
import CodeSurvey.Proofs.References.CountedWords
import CodeSurvey.Proofs.Text.FoundMatches

/-!
# Definitions on lines of their own

In a language that tells its definitions by a keyword at the start of a line, none is lost and none
made up. White space may go over line ends, so a definition can be found from an earlier line on;
but that line then holds no more than the modifier, and the definition is the same.
-/

namespace CodeSurvey.Definitions
open Text Text.Pattern References

/-! ## Headers -/

/-- The parts of a definition up to the parenthesis that opens its parameters. -/
structure Header where
  indent : List Char
  modifier : List Char
  gap : List Char
  name : List Char
  trail : List Char

namespace Header

/-- All that comes before the name. -/
def lead (d : Header) : List Char := d.indent ++ d.modifier ++ "def".toList ++ d.gap

def front (d : Header) : List Char := d.lead ++ d.name ++ d.trail

def chars (d : Header) : List Char := d.front ++ ['(']

/-- The parts are what they should be, with gaps of some kind of space between them. -/
structure Spaced (isGap : Char → Bool) (d : Header) : Prop where
  indent : d.indent.all isBlank
  modifier : d.modifier = [] ∨ ∃ gap, d.modifier = "async".toList ++ gap ∧ gap.all isGap ∧ gap ≠ []
  gap : d.gap.all isGap
  gap_ne_nil : d.gap ≠ []
  name : isIdentifier d.name
  trail : d.trail.all isGap

variable {d d' : Header} {before left right after : List Char}

theorem Spaced.of_isBlank (h : d.Spaced isBlank) : d.Spaced isSpace where
  indent := h.indent
  modifier := h.modifier.imp_right fun hmod => hmod.imp fun _ hgap =>
    ⟨hgap.1, all_isSpace_of_isBlank hgap.2.1, hgap.2.2⟩
  gap := all_isSpace_of_isBlank h.gap
  gap_ne_nil := h.gap_ne_nil
  name := h.name
  trail := all_isSpace_of_isBlank h.trail

/-! ## Headers and the pattern -/

def firstParts : List Pattern :=
  [lineStart, Definitions.indent, Definitions.modifier (exactly "async"), exactly "def", someSpace]

def lastParts : List Pattern := [spaces, exactly "("]

theorem python_eq : python = all (firstParts ++ group 1 asciiName :: lastParts) := rfl

theorem reads_asciiName {chars : List Char} :
    asciiName.Reads before chars after ↔ isIdentifier chars := by
  constructor
  · intro h
    obtain ⟨xs, ys, rfl, ⟨c, hc, rfl⟩, hall, -⟩ := h
    rw [List.singleton_append, isIdentifier, hc, hall]
    rfl
  · intro h
    cases chars with
    | nil => cases h
    | cons c rest =>
      rw [isIdentifier, Bool.and_eq_true] at h
      exact ⟨[c], rest, rfl, ⟨c, h.1, rfl⟩, h.2, Nat.zero_le _⟩

theorem reads_modifier {chars : List Char} :
    (Definitions.modifier (exactly "async")).Reads before chars after ↔
      chars = [] ∨ ∃ gap, chars = "async".toList ++ gap ∧ gap.all isSpace ∧ gap ≠ [] := by
  rw [Definitions.modifier, reads_optional, reads_seq, or_comm]
  constructor
  · intro h
    refine h.imp_right fun hmod => ?_
    obtain ⟨xs, ys, rfl, hxs, hys⟩ := hmod
    obtain rfl := reads_exactly.1 hxs
    exact ⟨ys, rfl, reads_someSpace.1 hys⟩
  · intro h
    refine h.imp_right fun hmod => ?_
    obtain ⟨gap, rfl, hgap⟩ := hmod
    exact ⟨_, gap, rfl, reads_exactly.2 rfl, reads_someSpace.2 hgap⟩

theorem header_of_groupReading {xs ys zs : List Char}
    (h : GroupReading firstParts asciiName lastParts before xs ys zs after) :
    before.getLast?.all (· == '\n') ∧
      ∃ d : Header, d.Spaced isSpace ∧ xs = d.lead ∧ ys = d.name ∧ zs = d.trail ++ ['('] := by
  obtain ⟨start, xs, rfl, ⟨rfl, hline⟩, hxs⟩ := reads_all_cons.1 h.first
  obtain ⟨indent, xs, rfl, hindent, hxs⟩ := reads_all_cons.1 hxs
  obtain ⟨modifier, xs, rfl, hmodifier, hxs⟩ := reads_all_cons.1 hxs
  obtain ⟨keyword, gap, rfl, hkeyword, hxs⟩ := reads_all_cons.1 hxs
  obtain ⟨gap, rest, rfl, hgap, hrest⟩ := reads_all_cons.1 hxs
  obtain rfl := reads_all_nil.1 hrest
  obtain rfl := reads_exactly.1 hkeyword
  obtain ⟨hspace, hne⟩ := reads_someSpace.1 hgap
  obtain ⟨trail, opening, rfl, htrail, hopening⟩ := reads_all_cons.1 h.last
  obtain rfl := reads_exactly.1 hopening
  refine ⟨hline, ⟨indent, modifier, gap, ys, trail⟩, ⟨hindent.1, reads_modifier.1 hmodifier, hspace,
    hne, reads_asciiName.1 h.middle, reads_spaces.1 htrail⟩, ?_, rfl, rfl⟩
  simp [lead]

theorem Spaced.begins (hd : d.Spaced isSpace) (hline : before.getLast?.all (· == '\n'))
    (after : List Char) : python.Begins ⟨before, d.chars ++ after⟩ := by
  refine ⟨d.chars, after, rfl, ?_⟩
  have hchars : d.chars = [] ++ (d.indent ++ (d.modifier ++ ("def".toList ++ (d.gap ++
      (d.name ++ (d.trail ++ ['('])))))) := by
    simp [chars, front, lead]
  rw [hchars, python]
  refine reads_all_cons.2 ⟨_, _, rfl, ⟨rfl, hline⟩, ?_⟩
  refine reads_all_cons.2 ⟨_, _, rfl, ⟨hd.indent, Nat.zero_le _⟩, ?_⟩
  refine reads_all_cons.2 ⟨_, _, rfl, reads_modifier.2 hd.modifier, ?_⟩
  refine reads_all_cons.2 ⟨_, _, rfl, reads_exactly.2 rfl, ?_⟩
  refine reads_all_cons.2 ⟨_, _, rfl, reads_someSpace.2 ⟨hd.gap, hd.gap_ne_nil⟩, ?_⟩
  refine reads_all_cons.2 ⟨_, _, rfl, reads_asciiName.2 hd.name, ?_⟩
  exact reads_all_cons.2 ⟨_, _, rfl, reads_spaces.2 hd.trail, reads_exactly.2 rfl⟩

theorem readsSome_python : python.ReadsSome := by
  intro before chars after h hnone
  obtain ⟨xs, ys, rfl, -, hys⟩ := reads_all_cons.1 h
  obtain ⟨indent, ys, rfl, -, hys⟩ := reads_all_cons.1 hys
  obtain ⟨modifier, ys, rfl, -, hys⟩ := reads_all_cons.1 hys
  obtain ⟨keyword, ys, rfl, hkeyword, -⟩ := reads_all_cons.1 hys
  obtain rfl := reads_exactly.1 hkeyword
  simp at hnone

/-! ## Headers that overlap -/

theorem Spaced.opening_not_mem (hd : d.Spaced isSpace) : '(' ∉ d.front := by
  have gap {chars : List Char} (h : chars.all isSpace) : '(' ∉ chars :=
    not_mem_of_all h (by decide)
  have hindent := gap (all_isSpace_of_isBlank hd.indent)
  have hgap := gap hd.gap
  have htrail := gap hd.trail
  have hmodifier : '(' ∉ d.modifier := by
    rcases hd.modifier with hnone | ⟨space, hmod, hspace, -⟩
    · simp [hnone]
    · rw [hmod]
      simpa using gap hspace
  have hname : '(' ∉ d.name := by
    obtain ⟨c, rest, -, -, hparts⟩ := parts_of_isIdentifier hd.name
    exact fun hmem => absurd (hparts _ hmem) (by decide)
  simp [front, lead, hindent, hmodifier, hgap, hname, htrail]

/-- A header ends where the first parenthesis opens, so two that overlap end at one place. -/
theorem Spaced.front_of_overlap (hd : d.Spaced isSpace) (hd' : d'.Spaced isSpace)
    {after' : List Char} (hchars : d.chars = left ++ right) (hright : right ≠ [])
    (hrest : d'.chars ++ after' = right ++ after) : left ++ d'.front = d.front := by
  obtain ⟨inner, c, rfl⟩ := (List.eq_nil_or_concat right).resolve_left hright
  rw [List.concat_eq_append] at hchars hrest
  rw [← List.append_assoc, chars] at hchars
  obtain ⟨hfront, hc⟩ := List.append_inj' hchars rfl
  obtain rfl : c = '(' := (List.singleton_inj.1 hc).symm
  have hnone : '(' ∉ inner := by
    have hno := hd.opening_not_mem
    rw [hfront] at hno
    exact fun hmem => hno (List.mem_append_right left hmem)
  have plain {xs : List Char} (h : '(' ∉ xs) : xs.all (· != '(') := by
    rw [List.all_eq_true]
    intro c hc
    have hne : c ≠ '(' := fun heq => h (heq ▸ hc)
    simpa using hne
  have hsplit : d'.front ++ '(' :: after' = inner ++ '(' :: after := by
    simpa [chars] using hrest
  have hinner := split_at_front hsplit (plain hd'.opening_not_mem) (plain hnone) (by simp) (by simp)
  rw [hinner.1, hfront]

theorem isAsciiNamePart_of_isSpace {c : Char} (h : isSpace c) : isAsciiNamePart c = false := by
  cases hpart : isAsciiNamePart c with
  | false => rfl
  | true =>
    have hword := isWord_of_isAsciiNamePart hpart
    rw [isWord_of_isSpace h] at hword
    cases hword

theorem Spaced.not_isSpace_getLast (hd : d.Spaced isSpace) (front : List Char) :
    (front ++ d.name).getLast?.all fun c => !isSpace c := by
  obtain ⟨c, rest, hname, -, hparts⟩ := parts_of_isIdentifier hd.name
  have hne : d.name ≠ [] := by simp [hname]
  have hlast := hparts _ (List.getLast_mem hne)
  rw [List.getLast?_append, List.getLast?_eq_some_getLast hne]
  cases hspace : isSpace (d.name.getLast hne) with
  | false => simp [hspace]
  | true =>
    rw [isAsciiNamePart_of_isSpace hspace] at hlast
    cases hlast

theorem Spaced.not_isAsciiNamePart_getLast (hd : d.Spaced isSpace) (front : List Char) :
    (front ++ d.gap).getLast?.all fun c => !isAsciiNamePart c := by
  have hspace := List.all_eq_true.1 hd.gap _ (List.getLast_mem hd.gap_ne_nil)
  rw [List.getLast?_append, List.getLast?_eq_some_getLast hd.gap_ne_nil]
  simp [isAsciiNamePart_of_isSpace hspace]

/-- Two headers that end at one place have the same name there. -/
theorem Spaced.parts_of_front (hd : d.Spaced isSpace) (hd' : d'.Spaced isSpace)
    (h : left ++ d'.front = d.front) : d'.name = d.name ∧ left ++ d'.lead = d.lead ∧
      left ++ (d'.indent ++ d'.modifier) = d.indent ++ d.modifier := by
  have parts {name : List Char} (h : isIdentifier name) : name.all isAsciiNamePart := by
    obtain ⟨c, rest, -, -, hparts⟩ := parts_of_isIdentifier h
    exact List.all_eq_true.2 hparts
  have hdef (front : List Char) : (front ++ "def".toList).getLast?.all fun c => !isSpace c := by
    rw [List.getLast?_append, show "def".toList.getLast? = some 'f' by decide]
    rfl
  rw [front, front, ← List.append_assoc, ← List.append_assoc] at h
  obtain ⟨hname, -⟩ := split_at_tail h hd'.trail hd.trail (hd'.not_isSpace_getLast _)
    (hd.not_isSpace_getLast _)
  rw [lead, lead, ← List.append_assoc] at hname
  obtain ⟨hlead, hsame⟩ := split_at_tail hname (parts hd'.name) (parts hd.name)
    (hd'.not_isAsciiNamePart_getLast _) (hd.not_isAsciiNamePart_getLast _)
  have hgap := hlead
  rw [← List.append_assoc] at hgap
  obtain ⟨hkeyword, -⟩ := split_at_tail hgap hd'.gap hd.gap (hdef _) (hdef _)
  refine ⟨hsame, by simpa [lead] using hlead, ?_⟩
  exact List.append_cancel_right (by simpa using hkeyword)

end Header

/-! ## Where headers start -/

/-- A text ends in a line with an indented modifier and nothing but white space after it. -/
def EndsInModifier (indent text : List Char) : Prop :=
  ∃ start gap, text = start ++ (indent ++ "async".toList ++ gap) ∧
    start.getLast?.all (· == '\n') ∧ indent.all isBlank ∧ gap.all isSpace ∧ '\n' ∈ gap

namespace Header
variable {d d' : Header} {first left after : List Char}

theorem getLast?_modifier (front : List Char) :
    (front ++ "async".toList).getLast? = some 'c' := by
  rw [List.getLast?_append, show "async".toList.getLast? = some 'c' by decide]
  rfl

/-- Of two headers that end at one place, the one that starts a later line is the other one too,
or continues its modifier. -/
theorem Spaced.start_of_parts (hd : d.Spaced isSpace) (hd' : d'.Spaced isSpace)
    (hline : (first ++ left).getLast?.all (· == '\n'))
    (h : left ++ (d'.indent ++ d'.modifier) = d.indent ++ d.modifier) :
    left = [] ∨ d'.modifier = [] ∧ ∃ gap, left = d.indent ++ "async".toList ++ gap ∧
      gap.all isSpace ∧ '\n' ∈ gap := by
  cases hleft : left.getLast? with
  | none => exact .inl (List.getLast?_eq_none_iff.1 hleft)
  | some c =>
    rw [List.getLast?_append, hleft] at hline
    obtain rfl : c = '\n' := by simpa using hline
    have hmem : '\n' ∈ left := List.mem_of_getLast? hleft
    have hindent : '\n' ∉ d.indent := not_mem_of_all hd.indent (by decide)
    have hc : (d.indent ++ "async".toList).getLast?.all fun c => !isSpace c := by
      rw [getLast?_modifier]
      rfl
    rcases hd.modifier with hnone | ⟨gap, hmod, hgap, -⟩
    · rw [hnone, List.append_nil] at h
      exact absurd (h ▸ List.mem_append_left _ hmem) hindent
    · rw [hmod, ← List.append_assoc d.indent] at h
      rcases hd'.modifier with hnone' | ⟨gap', hmod', hgap', -⟩
      · rw [hnone', List.append_nil] at h
        refine .inr ⟨hnone', ?_⟩
        rcases List.append_eq_append_iff.1 h with ⟨mid, hfront, hindent'⟩ | ⟨mid, hleft', hgap'⟩
        · -- the line end that the left part ends in comes before the modifier
          cases hmid : mid.getLast? with
          | none =>
            obtain rfl := List.getLast?_eq_none_iff.1 hmid
            rw [List.append_nil] at hfront
            have hlast := getLast?_modifier d.indent
            rw [hfront, hleft] at hlast
            cases hlast
          | some e =>
            have hlast := getLast?_modifier d.indent
            rw [hfront, List.getLast?_append, hmid] at hlast
            obtain rfl : e = 'c' := by simpa using hlast
            have hblank := List.all_eq_true.1 hd'.indent 'c'
              (hindent' ▸ List.mem_append_left _ (List.mem_of_getLast? hmid))
            cases hblank
        · refine ⟨mid, hleft', ?_, ?_⟩
          · rw [hgap', List.all_append, Bool.and_eq_true] at hgap
            exact hgap.1
          · have hlast := hleft
            rw [hleft', List.getLast?_append, getLast?_modifier] at hlast
            cases hmid : mid.getLast? with
            | none =>
              rw [hmid] at hlast
              cases hlast
            | some e =>
              rw [hmid] at hlast
              obtain rfl : e = '\n' := by simpa using hlast
              exact List.mem_of_getLast? hmid
      · have hc' : (left ++ d'.indent ++ "async".toList).getLast?.all fun c => !isSpace c := by
          rw [getLast?_modifier]
          rfl
        rw [hmod', ← List.append_assoc, ← List.append_assoc] at h
        have hfront := List.append_cancel_right (split_at_tail h hgap' hgap hc' hc).1
        exact absurd (hfront ▸ List.mem_append_left _ hmem) hindent

/-! ## Headers that are found -/

/-- A header that is matched: it starts a line, and its name is the group of the match. -/
structure FoundAt (m : Match) (before : List Char) (d : Header) (after : List Char) : Prop where
  line : before.getLast?.all (· == '\n')
  spaced : d.Spaced isSpace
  chars_eq : m.whole.chars = d.chars
  name_eq : ∃ s, nameOf? m = some s ∧ s.chars = d.name ∧ s.start.offset = (before ++ d.lead).length
  start_eq : m.whole.start.offset = before.length
  stop_eq : m.whole.stop.offset = (before ++ d.chars).length

theorem foundAt_of_groupMatch {m : Match} {before xs ys zs : List Char}
    (h : GroupMatch firstParts asciiName lastParts m before xs ys zs after) :
    ∃ d : Header, FoundAt m before d after ∧ xs ++ ys ++ zs = d.chars := by
  obtain ⟨hline, d, hd, rfl, rfl, rfl⟩ := header_of_groupReading h.reading
  have hchars : d.lead ++ d.name ++ (d.trail ++ ['(']) = d.chars := by simp [chars, front]
  have hname := Stretch.chars_of_leads
    (Place.leads_between (before ++ d.lead) d.name (d.trail ++ ['('] ++ after))
  have hgroup := congrArg (fun g => g.or (m.group? 2)) h.group_eq
  rw [Option.some_or] at hgroup
  refine ⟨d, ⟨hline, hd, h.chars_eq.trans hchars, ⟨_, hgroup, ?_, rfl⟩, ?_, ?_⟩, hchars⟩
  · simpa using hname
  · rw [h.whole_eq]
    rfl
  · rw [h.whole_eq, ← hchars]
    simp [Place.between]

theorem foundAt_of_mem {text : List Char} {m : Match} (hm : m ∈ python.findAll text) :
    ∃ before d after, text = before ++ (d.chars ++ after) ∧ FoundAt m before d after := by
  rw [python_eq] at hm
  obtain ⟨before, xs, ys, zs, after, htext, hgroup⟩ := groupMatch_of_mem_findAll rfl rfl rfl hm
  obtain ⟨d, hfound, hchars⟩ := foundAt_of_groupMatch hgroup
  refine ⟨before, d, after, ?_, hfound⟩
  rw [htext, ← hchars]
  simp

/-- A header that continues no modifier is found from its own start on. -/
theorem Spaced.exists_found (hd : d.Spaced isSpace) {before : List Char}
    (hline : before.getLast?.all (· == '\n'))
    (hstart : d.modifier ≠ [] ∨ ∀ indent, ¬ EndsInModifier indent before) (after : List Char) :
    ∃ m ∈ python.findAll (before ++ (d.chars ++ after)), ∃ s, nameOf? m = some s ∧
      s.chars = d.name ∧ s.start.offset = (before ++ d.lead).length ∧
      m.whole.chars.head? = d.chars.head? := by
  have hreads : (all (firstParts ++ group 1 asciiName :: lastParts)).ReadsSome := readsSome_python
  obtain ⟨m, hm, first, xs, ys, zs, after', hgroup, left, right, hbefore, hxs, hrest, hright⟩ :=
    exists_groupMatch_over rfl rfl rfl hreads (hd.begins hline after)
  obtain ⟨d₁, hfound, hchars⟩ := foundAt_of_groupMatch hgroup
  rw [hchars] at hxs
  have hfront := hfound.spaced.front_of_overlap hd hxs hright hrest
  obtain ⟨hname, hlead, hparts⟩ := hfound.spaced.parts_of_front hd hfront
  obtain ⟨s, hs, hchars', hoffset⟩ := hfound.name_eq
  refine ⟨m, hm, s, hs, hchars'.trans hname.symm, ?_, ?_⟩
  · rw [hoffset, ← hlead, hbefore, List.append_assoc]
  · rw [hbefore] at hline
    rcases hfound.spaced.start_of_parts hd hline hparts with hnone | ⟨hnone, gap, hleft, hgap, hmem⟩
    · rw [hnone, List.nil_append] at hfront
      rw [hfound.chars_eq, chars, ← hfront, chars]
    · refine absurd ⟨first, gap, ?_, hfound.line, hfound.spaced.indent, hgap, hmem⟩
        (hstart.resolve_left (fun hne => hne hnone) d₁.indent)
      rw [hbefore, hleft]

/-- A header without a modifier of its own is found where the modifier that it continues is. -/
theorem Spaced.exists_found_of_endsInModifier (hd : d.Spaced isSpace) {before indent : List Char}
    (hmod : d.modifier = []) (hends : EndsInModifier indent before) (after : List Char) :
    ∃ m ∈ python.findAll (before ++ (d.chars ++ after)), ∃ s, nameOf? m = some s ∧
      s.chars = d.name ∧ s.start.offset = (before ++ d.lead).length ∧
      m.whole.chars.head? = (indent ++ ['a']).head? := by
  obtain ⟨start, gap, rfl, hline, hindent, hgap, hmem⟩ := hends
  let whole : Header := { d with indent := indent, modifier := "async".toList ++ (gap ++ d.indent) }
  have hwhole : whole.Spaced isSpace := by
    refine ⟨hindent, .inr ⟨gap ++ d.indent, rfl, ?_, ?_⟩, hd.gap, hd.gap_ne_nil, hd.name, hd.trail⟩
    · rw [List.all_append, hgap, all_isSpace_of_isBlank hd.indent]
      rfl
    · exact List.append_ne_nil_of_left_ne_nil (List.ne_nil_of_mem hmem) _
  have hlead : start ++ (indent ++ "async".toList ++ gap) ++ d.lead = start ++ whole.lead := by
    simp [lead, whole, hmod]
  have hchars : start ++ (indent ++ "async".toList ++ gap) ++ (d.chars ++ after) =
      start ++ (whole.chars ++ after) := by
    simp [chars, front, lead, whole, hmod]
  obtain ⟨m, hm, s, hs, hname, hoffset, hhead⟩ := hwhole.exists_found hline (.inl (by simp [whole]))
    after
  rw [hlead, hchars]
  refine ⟨m, hm, s, hs, hname, hoffset, hhead.trans ?_⟩
  cases indent with
  | nil => rfl
  | cons c indent => rfl

end Header

/-! ## Definitions that are found -/

open Header

theorem isIndented_eq (m : Match) : isIndented m = m.whole.chars.head?.any isBlank := by
  rw [isIndented]
  cases m.whole.chars <;> rfl

variable {content file : String}

theorem mem_functionsByPattern (file : String) {m : Match}
    (hm : m ∈ python.findAll content.toList) {s : Stretch} (hs : nameOf? m = some s)
    (hname : s.text ∉ controlKeywords) :
    ∃ f ∈ functionsByPattern content file .python, f.name = s.text ∧
      f.line = lineOf content.toList s.start.offset ∧
      (f.isTopLevel ↔ m.whole.chars.head?.any isBlank = false) := by
  have hdef : ∃ f, definitionOf? content.toList (lines content.toList) file .python .function m =
      some f ∧ f.name = s.text ∧ f.line = lineOf content.toList s.start.offset ∧
      (f.isTopLevel ↔ m.whole.chars.head?.any isBlank = false) := by
    rw [definitionOf?, hs, Option.bind_some, if_neg (by simpa using hname)]
    refine ⟨_, rfl, rfl, rfl, ?_⟩
    rw [← isIndented_eq]
    simp [Language.isFlat]
  obtain ⟨f, hf, hfacts⟩ := hdef
  exact ⟨f, List.mem_filterMap.2 ⟨m, hm, hf⟩, hfacts⟩

/-- A definition is found where the name of a header stands. -/
theorem Header.FoundAt.definition {m : Match} {before after : List Char} {d : Header}
    (h : FoundAt m before d after) (htext : content.toList = before ++ (d.chars ++ after))
    {f : FunctionDef}
    (hf : definitionOf? content.toList (lines content.toList) file .python .function m = some f) :
    f.name.toList = d.name ∧ f.line = (before ++ d.lead).count '\n' + 1 := by
  obtain ⟨s, hs, hname, hoffset⟩ := h.name_eq
  rw [definitionOf?, hs, Option.bind_some] at hf
  split at hf
  · cases hf
  · cases hf
    refine ⟨?_, ?_⟩
    · rw [← hname]
      exact Stretch.toList_text s
    · have hsplit : content.toList = before ++ d.lead ++ (d.name ++ d.trail ++ ['('] ++ after) := by
        rw [htext]
        simp [chars, front]
      dsimp only
      rw [hoffset, hsplit, lineOf_length]

theorem exists_of_mem {f : FunctionDef} (hf : f ∈ functionsByPattern content file .python) :
    ∃ (before : List Char) (d : Header) (after : List Char),
      content.toList = before ++ (d.chars ++ after) ∧ d.Spaced isSpace ∧
      f.name.toList = d.name ∧ f.line = (before ++ d.lead).count '\n' + 1 := by
  obtain ⟨m, hm, hdef⟩ := List.mem_filterMap.1 hf
  obtain ⟨before, d, after, htext, hfound⟩ := foundAt_of_mem hm
  obtain ⟨hname, hline⟩ := hfound.definition htext hdef
  exact ⟨before, d, after, htext, hfound.spaced, hname, hline⟩

/-- The next definition starts a line of its own, after the name of the one before. -/
theorem lines_increase (content file : String) :
    ((functionsByPattern content file .python).map FunctionDef.line).Pairwise (· < ·) := by
  refine List.pairwise_map.2 (List.pairwise_filterMap.2 ?_)
  refine (findAll_pairwise python content.toList).imp_of_mem ?_
  intro m m' hm hm' hturn f hf f' hf'
  obtain ⟨before, d, after, htext, hfound⟩ := foundAt_of_mem hm
  obtain ⟨before', d', after', htext', hfound'⟩ := foundAt_of_mem hm'
  have hle := hturn.offset_le
  rw [hfound.stop_eq, hfound'.start_eq] at hle
  have hsplit : before ++ d.chars ++ after = before' ++ (d'.chars ++ after') := by
    rw [List.append_assoc, ← htext, htext']
  obtain ⟨between, rfl⟩ : ∃ between, before' = before ++ d.chars ++ between :=
    (List.prefix_of_prefix_length_le ⟨after, hsplit⟩ ⟨_, rfl⟩ hle).imp fun _ => Eq.symm
  have hmem : '\n' ∈ d.name ++ d.trail ++ ['('] ++ between := by
    have hline := hfound'.line
    have hshape : before ++ d.chars ++ between =
        before ++ d.lead ++ (d.name ++ d.trail ++ ['('] ++ between) := by simp [chars, front]
    have hne : d.name ++ d.trail ++ ['('] ++ between ≠ [] := by simp
    rw [hshape, List.getLast?_append, List.getLast?_eq_some_getLast hne] at hline
    have hlast : (d.name ++ d.trail ++ ['('] ++ between).getLast hne = '\n' := by
      simpa using hline
    rw [← hlast]
    exact List.getLast_mem hne
  have hpos := List.count_pos_iff.2 hmem
  rw [(hfound.definition htext hf).2, (hfound'.definition htext' hf').2]
  simp only [chars, front, List.count_append] at hpos ⊢
  omega

theorem filter_line_eq {fs : List FunctionDef} (h : (fs.map FunctionDef.line).Pairwise (· < ·))
    {f : FunctionDef} (hf : f ∈ fs) : fs.filter (fun g => g.line == f.line) = [f] := by
  induction fs with
  | nil => cases hf
  | cons g fs ih =>
    rw [List.map_cons, List.pairwise_cons] at h
    rcases List.mem_cons.1 hf with rfl | hf
    · have hrest : fs.filter (fun g => g.line == f.line) = [] := by
        refine List.filter_eq_nil_iff.2 fun g hg => ?_
        have hlt := h.1 _ (List.mem_map_of_mem hg)
        simpa using Nat.ne_of_gt hlt
      rw [List.filter_cons, if_pos (beq_self_eq_true f.line), hrest]
    · have hlt := h.1 _ (List.mem_map_of_mem hf)
      rw [List.filter_cons_of_neg (by simpa using Nat.ne_of_lt hlt), ih h.2 hf]

theorem Header.lead_of_line {d : Header} {line tail : List Char} (hline : line = d.chars ++ tail)
    (hsingle : '\n' ∉ line) (before : List Char) :
    (before ++ d.lead).count '\n' = before.count '\n' := by
  have hnone : '\n' ∉ d.lead := fun hmem => hsingle (by simp [hline, chars, front, hmem])
  rw [List.count_append, List.count_eq_zero.2 hnone, Nat.add_zero]

section OnLine
variable {before line after tail : List Char} {d : Header}

theorem entry_of_match (file : String) (hparts : IsLineOf content.toList before line after)
    (hline : line = d.chars ++ tail) (hkeyword : String.ofList d.name ∉ controlKeywords) {m : Match}
    (hm : m ∈ python.findAll (before ++ (d.chars ++ (tail ++ after)))) {s : Stretch}
    (hs : nameOf? m = some s) (hname : s.chars = d.name)
    (hoffset : s.start.offset = (before ++ d.lead).length) :
    ∃ f, (functionsByPattern content file .python).filter
        (fun g => g.line == before.count '\n' + 1) = [f] ∧
      f.name.toList = d.name ∧ (f.isTopLevel ↔ m.whole.chars.head?.any isBlank = false) := by
  have htext : content.toList = before ++ (d.chars ++ (tail ++ after)) := by
    rw [hparts.text_eq, hline, List.append_assoc]
  have hlead : content.toList =
      before ++ d.lead ++ (d.name ++ d.trail ++ ['('] ++ (tail ++ after)) := by
    rw [htext]
    simp [chars, front]
  have hstext : s.text = String.ofList d.name := by rw [Stretch.text, hname]
  rw [← htext] at hm
  obtain ⟨f, hf, hfname, hfline, htop⟩ := mem_functionsByPattern file hm hs (hstext ▸ hkeyword)
  have hnumber : f.line = before.count '\n' + 1 := by
    rw [hfline, hoffset, hlead, lineOf_length, Header.lead_of_line hline hparts.single before]
  refine ⟨f, ?_, ?_, htop⟩
  · rw [← hnumber]
    exact filter_line_eq (lines_increase content file) hf
  · rw [hfname, hstext, String.toList_ofList]

theorem entry_of_line (file : String) (hparts : IsLineOf content.toList before line after)
    (hline : line = d.chars ++ tail) (hd : d.Spaced isBlank)
    (hkeyword : String.ofList d.name ∉ controlKeywords)
    (hstart : d.modifier ≠ [] ∨ ∀ indent, ¬ EndsInModifier indent before) :
    ∃ f, (functionsByPattern content file .python).filter
        (fun g => g.line == before.count '\n' + 1) = [f] ∧
      f.name.toList = d.name ∧ (f.isTopLevel ↔ line.head?.any isBlank = false) := by
  have hhead : line.head? = d.chars.head? := by
    rw [hline, List.head?_append]
    cases hc : d.chars.head? with
    | none => simp [chars] at hc
    | some c => rfl
  obtain ⟨m, hm, s, hs, hname, hoffset, hfirst⟩ :=
    hd.of_isBlank.exists_found hparts.starts hstart (tail ++ after)
  obtain ⟨f, hf, hfname, htop⟩ := entry_of_match file hparts hline hkeyword hm hs hname hoffset
  refine ⟨f, hf, hfname, ?_⟩
  rw [htop, hfirst, hhead]

theorem entry_of_endsInModifier (file : String) (hparts : IsLineOf content.toList before line after)
    (hline : line = d.chars ++ tail) (hd : d.Spaced isBlank)
    (hkeyword : String.ofList d.name ∉ controlKeywords) (hmod : d.modifier = [])
    {indent : List Char} (hends : EndsInModifier indent before) :
    ∃ f, (functionsByPattern content file .python).filter
        (fun g => g.line == before.count '\n' + 1) = [f] ∧
      f.name.toList = d.name ∧ (f.isTopLevel ↔ indent = []) := by
  obtain ⟨m, hm, s, hs, hname, hoffset, hfirst⟩ :=
    hd.of_isBlank.exists_found_of_endsInModifier hmod hends (tail ++ after)
  obtain ⟨f, hf, hfname, htop⟩ := entry_of_match file hparts hline hkeyword hm hs hname hoffset
  refine ⟨f, hf, hfname, ?_⟩
  obtain ⟨start, gap, -, -, hindent, -⟩ := hends
  rw [htop, hfirst]
  cases indent with
  | nil => exact ⟨fun _ => rfl, fun _ => rfl⟩
  | cons c indent =>
    rw [List.all_cons, Bool.and_eq_true] at hindent
    simp [hindent.1]

end OnLine

/-- A line that defines a name has one definition, and it is that of the name. Each definition has
its keyword before it and a parenthesis after it, and no two are on one line. -/
theorem pythonDefinitions_by_line (content file : String) :
    let found := functionsByPattern content file .python
    (∀ n line, (lines content.toList)[n]? = some line →
      ∃ before after, IsLineOf content.toList before line after ∧ before.count '\n' = n) ∧
    (∀ before line after, IsLineOf content.toList before line after →
      ∀ (d : Header) (tail : List Char), line = d.chars ++ tail → d.Spaced isBlank →
      String.ofList d.name ∉ controlKeywords →
      ∃ f, found.filter (fun g => g.line == before.count '\n' + 1) = [f] ∧
        f.name.toList = d.name ∧
        ((d.modifier = [] → ∀ indent, ¬ EndsInModifier indent before) →
          (f.isTopLevel ↔ line.head?.any isBlank = false)) ∧
        ∀ indent, d.modifier = [] → EndsInModifier indent before →
          (f.isTopLevel ↔ indent = [])) ∧
    (∀ f ∈ found, ∃ before gap trail after, content.toList =
        before ++ ("def".toList ++ (gap ++ (f.name.toList ++ (trail ++ '(' :: after)))) ∧
      gap.all isSpace ∧ gap ≠ [] ∧ trail.all isSpace ∧
      f.line = (before ++ "def".toList ++ gap).count '\n' + 1) ∧
    (found.map FunctionDef.line).Pairwise (· < ·) := by
  intro found
  refine ⟨fun n line => isLineOf_of_getElem?, ?_, ?_, lines_increase content file⟩
  · intro before line after hparts d tail hline hd hkeyword
    by_cases hcontinues : d.modifier = [] ∧ ∃ indent, EndsInModifier indent before
    · obtain ⟨hmod, indent, hends⟩ := hcontinues
      obtain ⟨f, hf, hname, -⟩ :=
        entry_of_endsInModifier file hparts hline hd hkeyword hmod hends
      refine ⟨f, hf, hname, fun hnone => absurd hends (hnone hmod indent), ?_⟩
      intro indent' _ hends'
      obtain ⟨f', hf', -, htop⟩ :=
        entry_of_endsInModifier file hparts hline hd hkeyword hmod hends'
      obtain rfl : f = f' := List.singleton_inj.1 (hf.symm.trans hf')
      exact htop
    · have hstart : d.modifier ≠ [] ∨ ∀ indent, ¬ EndsInModifier indent before := by
        by_cases hmod : d.modifier = []
        · exact .inr fun indent hends => hcontinues ⟨hmod, indent, hends⟩
        · exact .inl hmod
      obtain ⟨f, hf, hname, htop⟩ := entry_of_line file hparts hline hd hkeyword hstart
      refine ⟨f, hf, hname, fun _ => htop, fun indent hmod hends => ?_⟩
      exact absurd ⟨hmod, indent, hends⟩ hcontinues
  · intro f hf
    obtain ⟨before, d, after, htext, hd, hname, hline⟩ := exists_of_mem hf
    refine ⟨before ++ d.indent ++ d.modifier, d.gap, d.trail, after, ?_, hd.gap, hd.gap_ne_nil,
      hd.trail, ?_⟩
    · rw [htext, hname]
      simp [chars, front, lead]
    · rw [hline]
      simp [lead]

/-- A definition that continues a modifier is told by the line of the modifier. -/
theorem pythonDefinitions_by_line_modifier :
    let text := "async\n  def load(path):\n".toList
    let d : Header := ⟨[' ', ' '], [], [' '], "load".toList, []⟩
    IsLineOf text "async\n".toList "  def load(path):".toList ['\n'] ∧
    "  def load(path):".toList = d.chars ++ "path):".toList ∧ d.Spaced isBlank ∧
    String.ofList d.name ∉ controlKeywords ∧ EndsInModifier [] "async\n".toList ∧
    ∃ f, (functionsByPattern "async\n  def load(path):\n" "a.py" .python).filter
      (fun g => g.line == 2) = [f] ∧ f.name.toList = "load".toList ∧ f.isTopLevel := by
  intro text d
  have hparts : IsLineOf text "async\n".toList "  def load(path):".toList ['\n'] :=
    ⟨by decide, by decide, by decide, by decide⟩
  have hline : "  def load(path):".toList = d.chars ++ "path):".toList := by decide
  have hd : d.Spaced isBlank :=
    ⟨by decide, .inl rfl, by decide, by decide, by decide, by decide⟩
  have hkeyword : String.ofList d.name ∉ controlKeywords := by decide
  have hends : EndsInModifier [] "async\n".toList :=
    ⟨[], ['\n'], by decide, by decide, by decide, by decide, by decide⟩
  have hfound := (pythonDefinitions_by_line "async\n  def load(path):\n" "a.py").2.1
  obtain ⟨f, hf, hname, -, htop⟩ := hfound _ _ _ hparts d _ hline hd hkeyword
  exact ⟨hparts, hline, hd, hkeyword, hends, f, hf, hname, (htop [] rfl hends).2 rfl⟩

end CodeSurvey.Definitions

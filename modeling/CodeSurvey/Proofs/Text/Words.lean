import CodeSurvey.Proofs.Text.Readings
import CodeSurvey.Text.Lines
import CodeSurvey.Text.WholeName
import Mathlib.Data.List.Nodup

/-!
# Words

Where a name stands in a text as a word of its own: no word goes on before it or after it. This is
said of the characters on its line, without patterns; the pattern for whole names finds the same
places as long as the name starts and ends with plain characters.
-/

namespace CodeSurvey.Text
open Pattern

/-! ## Edges of words -/

/-- Of two neighbours at most one is a word character. -/
def isParted (a b : Option Char) : Bool := !(isWordAt a && isWordAt b)

/-- The numbers of the characters of white space. -/
def spaceNumbers : List Nat :=
  [9, 10, 11, 12, 13, 0x20, 0x85, 0xa0, 0x1680, 0x2000, 0x2001, 0x2002, 0x2003, 0x2004, 0x2005,
    0x2006, 0x2007, 0x2008, 0x2009, 0x200a, 0x2028, 0x2029, 0x202f, 0x205f, 0x3000]

theorem isWord_of_isSpace {c : Char} (h : isSpace c) : isWord c = false := by
  have hmem : c.toNat ∈ spaceNumbers := by
    simp only [isSpace, Bool.or_eq_true, Bool.and_eq_true, decide_eq_true_eq] at h
    simp only [spaceNumbers, List.mem_cons, List.not_mem_nil, or_false]
    omega
  have hnone : ∀ n ∈ spaceNumbers, isWord (Char.ofNat n) = false := by decide +kernel
  rw [← Char.ofNat_toNat c]
  exact hnone _ hmem

theorem isParted_of_left {a b : Option Char} (h : isWordAt a = false) : isParted a b := by
  simp [isParted, h]

theorem isParted_of_right {a b : Option Char} (h : isWordAt b = false) : isParted a b := by
  simp [isParted, h]

theorem isParted_iff_left {a b : Option Char} (h : isWordAt b) :
    isParted a b ↔ isWordAt a ≠ isWordAt b := by
  simp [isParted, h]

theorem isParted_iff_right {a b : Option Char} (h : isWordAt a) :
    isParted a b ↔ isWordAt a ≠ isWordAt b := by
  cases hb : isWordAt b <;> simp [isParted, h, hb]

theorem isWordAt_getLast?_append {chars : List Char} (h : ∀ c ∈ chars, isWord c = false)
    (hne : chars ≠ []) (before : List Char) : isWordAt (before ++ chars).getLast? = false := by
  rw [List.getLast?_append, List.getLast?_eq_some_getLast hne]
  exact h _ (List.getLast_mem hne)

theorem isWord_of_all_isSpace {gap : List Char} (h : gap.all isSpace) :
    ∀ c ∈ gap, isWord c = false := fun c hc => isWord_of_isSpace (List.all_eq_true.1 h c hc)

/-! ## White space on a line -/

theorem not_mem_of_all {accepts : Char → Bool} {chars : List Char} (h : chars.all accepts) {c : Char}
    (hc : accepts c = false) : c ∉ chars := by
  intro hmem
  have haccepts := List.all_eq_true.1 h c hmem
  rw [hc] at haccepts
  cases haccepts

def isBlank (c : Char) : Bool := c == ' ' || c == '\t'

/-- White space that does not end a line. -/
def isInline (c : Char) : Bool := isSpace c && c != '\n'

theorem isSpace_of_isBlank {c : Char} (h : isBlank c) : isSpace c := by
  rcases Bool.or_eq_true_iff.1 h with hc | hc
  · rw [beq_iff_eq.1 hc]
    decide
  · rw [beq_iff_eq.1 hc]
    decide

theorem all_isSpace_of_isBlank {gap : List Char} (h : gap.all isBlank) : gap.all isSpace := by
  rw [List.all_eq_true] at h ⊢
  exact fun c hc => isSpace_of_isBlank (h c hc)

theorem all_isInline_of_isBlank {gap : List Char} (h : gap.all isBlank) : gap.all isInline := by
  rw [List.all_eq_true]
  intro c hc
  have hne : c ≠ '\n' := fun heq => not_mem_of_all h (by decide) (heq ▸ hc)
  rw [isInline, isSpace_of_isBlank (List.all_eq_true.1 h c hc)]
  simpa using hne

theorem all_isSpace_of_isInline {gap : List Char} (h : gap.all isInline) : gap.all isSpace := by
  rw [List.all_eq_true] at h ⊢
  exact fun c hc => (Bool.and_eq_true_iff.1 (h c hc)).1

/-! ## Places of names -/

/-- What stands before and after a name on its line. -/
structure Setting where
  before : List Char
  after : List Char
deriving DecidableEq

def cuts : List Char → List Setting
  | [] => [⟨[], []⟩]
  | c :: rest => ⟨[], c :: rest⟩ :: (cuts rest).map fun s => { s with before := c :: s.before }

/-- The setting of a name that starts at a cut as a word of its own. -/
def settingAt? (name : List Char) (cut : Setting) : Option Setting :=
  let after := cut.after.drop name.length
  if name.isPrefixOf cut.after && isParted cut.before.getLast? name.head? &&
      isParted name.getLast? after.head? then
    some ⟨cut.before, after⟩
  else none

def settings (name line : List Char) : List Setting := (cuts line).filterMap (settingAt? name)

/-- The settings of a name in a text, one for each time it stands there as a word of its own. A
word does not go over the end of a line. -/
def settingsIn (name content : String) : List Setting :=
  (lines content.toList).flatMap (settings name.toList)

theorem mem_cuts {line : List Char} {s : Setting} : s ∈ cuts line ↔ line = s.before ++ s.after := by
  induction line generalizing s with
  | nil =>
    obtain ⟨before, after⟩ := s
    simp [cuts, eq_comm]
  | cons c rest ih =>
    obtain ⟨before, after⟩ := s
    rw [cuts, List.mem_cons, List.mem_map]
    constructor
    · rintro (h | ⟨s, hs, h⟩)
      · cases h
        rfl
      · cases h
        rw [ih.1 hs]
        rfl
    · intro h
      cases before with
      | nil => exact .inl (by simp_all)
      | cons d before =>
        obtain ⟨rfl, hrest⟩ := List.cons.inj h
        exact .inr ⟨⟨before, after⟩, ih.2 hrest, rfl⟩

theorem cuts_increase (line : List Char) :
    (cuts line).Pairwise fun a b => a.before.length < b.before.length := by
  induction line with
  | nil => exact List.pairwise_singleton _ _
  | cons c rest ih =>
    rw [cuts, List.pairwise_cons, List.pairwise_map]
    constructor
    · simp
    · exact ih.imp Nat.succ_lt_succ

theorem nodup_of_increase {ss : List Setting}
    (h : ss.Pairwise fun s t => s.before.length < t.before.length) : ss.Nodup :=
  h.imp fun hlt heq => absurd (congrArg (fun s => s.before.length) heq) (Nat.ne_of_lt hlt)

theorem nodup_cuts (line : List Char) : (cuts line).Nodup := nodup_of_increase (cuts_increase line)

theorem settingAt?_eq_some {name : List Char} {cut s : Setting} :
    settingAt? name cut = some s ↔ cut = ⟨s.before, name ++ s.after⟩ ∧
      isParted s.before.getLast? name.head? ∧ isParted name.getLast? s.after.head? := by
  obtain ⟨before, after⟩ := cut
  rw [settingAt?]
  constructor
  · intro h
    split at h
    next hif =>
      cases h
      simp only [Bool.and_eq_true, List.isPrefixOf_iff_prefix] at hif
      obtain ⟨⟨⟨rest, rfl⟩, hstart⟩, hend⟩ := hif
      rw [List.drop_left] at hend
      simp [hstart, hend]
    next => cases h
  · rintro ⟨h, hstart, hend⟩
    obtain ⟨rfl, rfl⟩ := Setting.mk.inj h
    simp [hstart, hend]

theorem mem_settings {name line : List Char} {s : Setting} :
    s ∈ settings name line ↔ line = s.before ++ name ++ s.after ∧
      isParted s.before.getLast? name.head? ∧ isParted name.getLast? s.after.head? := by
  rw [settings, List.mem_filterMap]
  simp only [settingAt?_eq_some, mem_cuts, List.append_assoc]
  constructor
  · rintro ⟨cut, hline, rfl, hparted⟩
    exact ⟨hline, hparted⟩
  · rintro ⟨hline, hparted⟩
    exact ⟨_, hline, rfl, hparted⟩

theorem settings_increase (name line : List Char) :
    (settings name line).Pairwise fun s t => s.before.length < t.before.length := by
  refine (cuts_increase line).filterMap _ ?_
  intro cut cut' hlt s hs s' hs'
  rwa [(settingAt?_eq_some.1 hs).1, (settingAt?_eq_some.1 hs').1] at hlt

theorem nodup_settings (name line : List Char) : (settings name line).Nodup :=
  nodup_of_increase (settings_increase name line)

/-- Where a name stands but once, it stands on one line only. -/
theorem lines_of_settingsIn {name content : String} {s : Setting}
    (h : settingsIn name content = [s]) :
    ∃ first line last, lines content.toList = first ++ line :: last ∧
      settings name.toList line = [s] ∧
      ∀ l ∈ first ++ last, settings name.toList l = [] := by
  rw [settingsIn] at h
  generalize lines content.toList = ls at h
  induction ls with
  | nil => cases h
  | cons l ls ih =>
    rw [List.flatMap_cons] at h
    rcases List.append_eq_singleton_iff.1 h with ⟨hl, hls⟩ | ⟨hl, hls⟩
    · obtain ⟨first, line, last, rfl, hline, hothers⟩ := ih hls
      refine ⟨l :: first, line, last, rfl, hline, ?_⟩
      intro k hk
      rcases List.mem_cons.1 hk with rfl | hk
      · exact hl
      · exact hothers k hk
    · exact ⟨[], l, ls, rfl, hl, List.flatMap_eq_nil_iff.1 hls⟩

/-! ## Whole names -/

/-- The edges that the pattern for whole names asks for. -/
structure Bounded (name : List Char) (s : Setting) : Prop where
  starts : isNameEdge name.head? → isWordAt s.before.getLast? ≠ isWordAt name.head?
  ends : isNameEdge name.getLast? → isWordAt name.getLast? ≠ isWordAt s.after.head?

theorem reads_wordEdge {ps : List Pattern} {before chars after : List Char} :
    (all (wordEdge :: ps)).Reads before chars after ↔
      isWordAt before.getLast? ≠ isWordAt (chars ++ after).head? ∧
      (all ps).Reads before chars after := by
  rw [reads_all_cons]
  constructor
  · rintro ⟨xs, ys, rfl, ⟨rfl, hedge⟩, h⟩
    exact ⟨hedge, by simpa using h⟩
  · rintro ⟨hedge, h⟩
    exact ⟨[], chars, rfl, ⟨rfl, hedge⟩, by simpa using h⟩

theorem reads_edge {wanted : Bool} {ps : List Pattern} {before chars after : List Char} :
    (all ((if wanted then [wordEdge] else []) ++ ps)).Reads before chars after ↔
      (wanted → isWordAt before.getLast? ≠ isWordAt (chars ++ after).head?) ∧
      (all ps).Reads before chars after := by
  cases wanted with
  | false => simp
  | true =>
    rw [if_pos rfl, List.singleton_append, reads_wordEdge]
    simp only [true_implies]

theorem reads_lastEdge {wanted : Bool} {before chars after : List Char} :
    (all (if wanted then [wordEdge] else [])).Reads before chars after ↔
      chars = [] ∧ (wanted → isWordAt before.getLast? ≠ isWordAt after.head?) := by
  have h := @reads_edge wanted [] before chars after
  rw [List.append_nil] at h
  rw [h]
  constructor
  · rintro ⟨hedge, rfl⟩
    exact ⟨rfl, hedge⟩
  · rintro ⟨rfl, hedge⟩
    exact ⟨hedge, rfl⟩

theorem reads_wholeName {name before chars after : List Char} :
    (wholeName name).Reads before chars after ↔ chars = name ∧ Bounded name ⟨before, after⟩ := by
  have hshape : wholeName name = all ((if isNameEdge name.head? then [wordEdge] else []) ++
      (exactChars name :: if isNameEdge name.getLast? then [wordEdge] else [])) := by
    rw [wholeName, List.append_assoc]
    rfl
  have hhead (h : isNameEdge name.head?) : (name ++ after).head? = name.head? := by
    cases name with
    | nil => cases h
    | cons c name => rfl
  have hlast (h : isNameEdge name.getLast?) : (before ++ name).getLast? = name.getLast? := by
    rw [List.getLast?_append]
    cases hc : name.getLast? with
    | none =>
      rw [hc] at h
      cases h
    | some c => rfl
  rw [hshape, reads_edge, reads_all_cons]
  constructor
  · rintro ⟨hstart, xs, ys, rfl, hxs, hys⟩
    obtain rfl := reads_exactChars.1 hxs
    obtain ⟨rfl, hend⟩ := reads_lastEdge.1 hys
    rw [List.append_nil] at hstart ⊢
    refine ⟨rfl, fun hedge => ?_, fun hedge => ?_⟩
    · rw [← hhead hedge]
      exact hstart hedge
    · rw [← hlast hedge]
      exact hend hedge
  · rintro ⟨rfl, hstart, hend⟩
    refine ⟨fun hedge => ?_, chars, [], by simp, reads_exactChars.2 rfl, ?_⟩
    · rw [hhead hedge]
      exact hstart hedge
    · refine reads_lastEdge.2 ⟨rfl, fun hedge => ?_⟩
      rw [hlast hedge]
      exact hend hedge

/-- The edges of a name are plain if the pattern takes just word characters for such. It goes by
letters, numbers and underscores; marks, joiners and fractions are the ones that differ. -/
def HasPlainEdges (name : List Char) : Prop :=
  isNameEdge name.head? = isWordAt name.head? ∧ isNameEdge name.getLast? = isWordAt name.getLast?

theorem bounded_iff {name : List Char} (h : HasPlainEdges name) {s : Setting} :
    Bounded name s ↔
      isParted s.before.getLast? name.head? ∧ isParted name.getLast? s.after.head? := by
  have hstart : isParted s.before.getLast? name.head? ↔
      (isNameEdge name.head? → isWordAt s.before.getLast? ≠ isWordAt name.head?) := by
    rw [h.1]
    cases hw : isWordAt name.head? with
    | false => simp [isParted_of_right hw]
    | true => simpa [hw] using isParted_iff_left hw
  have hend : isParted name.getLast? s.after.head? ↔
      (isNameEdge name.getLast? → isWordAt name.getLast? ≠ isWordAt s.after.head?) := by
    rw [h.2]
    cases hw : isWordAt name.getLast? with
    | false => simp [isParted_of_left hw]
    | true => simpa [hw] using isParted_iff_right hw
  rw [hstart, hend]
  exact ⟨fun hb => ⟨hb.starts, hb.ends⟩, fun hb => ⟨hb.1, hb.2⟩⟩

/-! ## After keywords -/

/-- A text ends in a keyword, a word of its own, and white space. -/
def EndsInKeyword (keywords : List String) (text : List Char) : Prop :=
  ∃ start, ∃ keyword ∈ keywords, ∃ gap, text = start ++ keyword.toList ++ gap ∧
    isParted start.getLast? keyword.toList.head? ∧ gap.all isSpace ∧ gap ≠ []

theorem endsInKeyword_iff {keywords : List String} {text : List Char} :
    EndsInKeyword keywords text ↔ ∃ keyword ∈ keywords, ∃ s ∈ settings keyword.toList text,
      s.after.all isSpace ∧ s.after ≠ [] := by
  constructor
  · rintro ⟨start, keyword, hkey, gap, rfl, hstart, hgap, hne⟩
    refine ⟨keyword, hkey, ⟨start, gap⟩, mem_settings.2 ⟨rfl, hstart, ?_⟩, hgap, hne⟩
    apply isParted_of_right
    obtain ⟨c, gap, rfl⟩ := List.exists_cons_of_ne_nil hne
    exact isWord_of_all_isSpace hgap c List.mem_cons_self
  · rintro ⟨keyword, hkey, ⟨start, gap⟩, hs, hgap, hne⟩
    obtain ⟨rfl, hstart, -⟩ := mem_settings.1 hs
    exact ⟨start, keyword, hkey, gap, rfl, hstart, hgap, hne⟩

instance (keywords : List String) : DecidablePred (EndsInKeyword keywords) := fun _ =>
  decidable_of_iff' _ endsInKeyword_iff

theorem EndsInKeyword.isWordAt_getLast? {keywords : List String} {text : List Char}
    (h : EndsInKeyword keywords text) : isWordAt text.getLast? = false := by
  obtain ⟨start, keyword, _, gap, rfl, _, hgap, hne⟩ := h
  exact isWordAt_getLast?_append (isWord_of_all_isSpace hgap) hne _

theorem isIn_afterKeyword {keywords : List String}
    (hk : ∀ k ∈ keywords, isWordAt k.toList.head?) {ps : List Pattern} {line : List Char} :
    (all (wordEdge :: words keywords :: someSpace :: ps)).isIn line ↔
      ∃ before chars after, line = before ++ chars ++ after ∧ EndsInKeyword keywords before ∧
        (all ps).Reads before chars after := by
  have hhead {k : String} (hkey : k ∈ keywords) (rest : List Char) :
      (k.toList ++ rest).head? = k.toList.head? := by
    have hword := hk k hkey
    cases hl : k.toList with
    | nil =>
      rw [hl] at hword
      cases hword
    | cons c cs => rfl
  rw [isIn_iff]
  constructor
  · rintro ⟨start, chars, after, rfl, h⟩
    obtain ⟨edge, xs, rfl, ⟨rfl, hedge⟩, h⟩ := reads_all_cons.1 h
    obtain ⟨word, ys, rfl, hword, h⟩ := reads_all_cons.1 h
    obtain ⟨gap, zs, rfl, hgap, h⟩ := reads_all_cons.1 h
    obtain ⟨keyword, hkey, rfl⟩ := reads_words.1 hword
    obtain ⟨hspace, hne⟩ := reads_someSpace.1 hgap
    refine ⟨start ++ keyword.toList ++ gap, zs, after, by simp, ?_, by simpa using h⟩
    rw [List.append_assoc, List.append_assoc, hhead hkey] at hedge
    exact ⟨start, keyword, hkey, gap, rfl, (isParted_iff_left (hk keyword hkey)).2 hedge, hspace, hne⟩
  · rintro ⟨before, chars, after, rfl, ⟨start, keyword, hkey, gap, rfl, hpart, hspace, hne⟩, h⟩
    refine ⟨start, keyword.toList ++ (gap ++ chars), after, by simp, ?_⟩
    refine reads_all_cons.2 ⟨[], keyword.toList ++ (gap ++ chars), rfl, ⟨rfl, ?_⟩, ?_⟩
    · rw [List.append_assoc, hhead hkey]
      exact (isParted_iff_left (hk keyword hkey)).1 hpart
    · refine reads_all_cons.2 ⟨_, _, rfl, reads_words.2 ⟨keyword, hkey, rfl⟩, ?_⟩
      refine reads_all_cons.2 ⟨_, _, rfl, reads_someSpace.2 ⟨hspace, hne⟩, ?_⟩
      simpa using h

end CodeSurvey.Text

import CodeSurvey.Proofs.Definitions.FoundNames
import CodeSurvey.Proofs.References.TextReferences
import CodeSurvey.References.Calls

/-!
# Definitions that count as calls

A name that stands but once in a text without a program is called there if a parenthesis opens after
it and the line does not announce a definition. What announces one is a keyword before the name, and
no form of definition without such a keyword is known here, so a definition may count as a call of
what it defines.
-/

namespace CodeSurvey.References
open Script Text Text.Pattern Definitions

/-! ## What stands around a name -/

def definingKeywords : List String := ["function", "def", "fn", "func"]

def declaringKeywords : List String := ["const", "let", "var"]

/-- Nothing, or the receiver of a method in parentheses and white space. -/
def IsReceiver (chars : List Char) : Prop :=
  chars = [] ∨ ∃ inner gap, chars = '(' :: (inner ++ ')' :: gap) ∧ ')' ∉ inner ∧ gap.all isSpace

/-- What stands before a name announces its definition: a keyword, and maybe a receiver. -/
def Announces (before : List Char) : Prop :=
  ∃ head receiver, before = head ++ receiver ∧ EndsInKeyword definingKeywords head ∧
    IsReceiver receiver

/-- A character comes first but for white space. -/
def OpensWith (opening : Char) (after : List Char) : Prop :=
  ∃ gap rest, after = gap ++ opening :: rest ∧ gap.all isSpace

theorem opensWith_iff {opening : Char} {after : List Char} :
    OpensWith opening after ↔
      ∃ cut ∈ cuts after, cut.before.all isSpace ∧ cut.after.head? = some opening := by
  constructor
  · rintro ⟨gap, rest, rfl, hgap⟩
    exact ⟨⟨gap, opening :: rest⟩, mem_cuts.2 rfl, hgap, rfl⟩
  · rintro ⟨⟨gap, rest⟩, hcut, hgap, hhead⟩
    obtain ⟨rest, rfl⟩ := List.head?_eq_some_iff.1 hhead
    exact ⟨gap, rest, mem_cuts.1 hcut, hgap⟩

instance (opening : Char) : DecidablePred (OpensWith opening) := fun _ =>
  decidable_of_iff' _ opensWith_iff

theorem OpensWith.head?_dropWhile {opening : Char} {after : List Char} (h : OpensWith opening after)
    (hopening : isSpace opening = false) : (after.dropWhile isSpace).head? = some opening := by
  obtain ⟨gap, rest, rfl, hgap⟩ := h
  rw [List.dropWhile_append_of_pos fun c hc => List.all_eq_true.1 hgap c hc, List.dropWhile_cons,
    hopening]
  rfl

theorem OpensWith.isWordAt_head? {opening : Char} {after : List Char} (h : OpensWith opening after)
    (hopening : isWord opening = false) : isWordAt after.head? = false := by
  obtain ⟨gap, rest, rfl, hgap⟩ := h
  cases gap with
  | nil => exact hopening
  | cons c gap =>
    rw [List.all_cons, Bool.and_eq_true] at hgap
    exact isWord_of_isSpace hgap.1

theorem Announces.isWordAt_getLast? {before : List Char} (h : Announces before) :
    isWordAt before.getLast? = false := by
  obtain ⟨head, receiver, rfl, hhead, hreceiver⟩ := h
  rcases hreceiver with rfl | ⟨inner, gap, rfl, -, hgap⟩
  · rw [List.append_nil]
    exact hhead.isWordAt_getLast?
  · have hshape : head ++ '(' :: (inner ++ ')' :: gap) = (head ++ '(' :: inner) ++ ')' :: gap := by
      simp
    rw [hshape]
    refine isWordAt_getLast?_append (fun c hc => ?_) (List.cons_ne_nil _ _) _
    rcases List.mem_cons.1 hc with rfl | hc
    · decide
    · exact isWord_of_all_isSpace hgap c hc

/-! ## Reading lines -/

section Lines
variable {name line before chars after : List Char}

theorem reads_opening {opening : String} :
    (all [spaces, exactly opening]).Reads before chars after ↔
      ∃ gap, chars = gap ++ opening.toList ∧ gap.all isSpace := by
  rw [reads_all_cons]
  constructor
  · rintro ⟨gap, ys, rfl, hgap, h⟩
    obtain rfl := reads_exactly.1 h
    exact ⟨gap, rfl, reads_spaces.1 hgap⟩
  · rintro ⟨gap, rfl, hgap⟩
    exact ⟨gap, _, rfl, reads_spaces.2 hgap, reads_exactly.2 rfl⟩

theorem reads_nameOpening {opening : String} :
    (all [exactChars name, spaces, exactly opening]).Reads before chars after ↔
      ∃ gap, chars = name ++ (gap ++ opening.toList) ∧ gap.all isSpace := by
  rw [reads_all_cons]
  constructor
  · rintro ⟨xs, ys, rfl, hname, h⟩
    obtain rfl := reads_exactChars.1 hname
    obtain ⟨gap, rfl, hgap⟩ := reads_opening.1 h
    exact ⟨gap, rfl, hgap⟩
  · rintro ⟨gap, rfl, hgap⟩
    exact ⟨name, _, rfl, reads_exactChars.2 rfl, reads_opening.2 ⟨gap, rfl, hgap⟩⟩

theorem reads_receiver :
    (optional (seq (enclosed "(" ')' 0) spaces)).Reads before chars after ↔ IsReceiver chars := by
  rw [reads_optional, IsReceiver, or_comm, reads_seq]
  refine or_congr Iff.rfl ⟨?_, ?_⟩
  · rintro ⟨xs, gap, rfl, h, hgap⟩
    obtain ⟨ps, ys, rfl, hopen, h⟩ := reads_all_cons.1 h
    obtain ⟨inner, zs, rfl, ⟨hinner, -⟩, ⟨c, hc, rfl⟩⟩ := reads_all_cons.1 h
    obtain rfl := reads_exactly.1 hopen
    obtain rfl := beq_iff_eq.1 hc
    refine ⟨inner, gap, by simp, ?_, reads_spaces.1 hgap⟩
    intro hmem
    simpa using List.all_eq_true.1 hinner _ hmem
  · rintro ⟨inner, gap, rfl, hinner, hgap⟩
    refine ⟨'(' :: (inner ++ [')']), gap, by simp, ?_, reads_spaces.2 hgap⟩
    refine reads_all_cons.2 ⟨['('], _, rfl, reads_exactly.2 rfl, ?_⟩
    refine reads_all_cons.2 ⟨inner, [')'], rfl, ⟨?_, Nat.zero_le _⟩, ⟨')', rfl, rfl⟩⟩
    refine List.all_eq_true.2 fun c hc => ?_
    have hne : c ≠ ')' := fun heq => hinner (heq ▸ hc)
    simpa using hne

theorem isIn_assignmentPattern : (assignmentPattern name).isIn line ↔
    ∃ before after, line = before ++ name ++ after ∧ EndsInKeyword declaringKeywords before ∧
      OpensWith '=' after := by
  rw [assignmentPattern, isIn_afterKeyword (by decide)]
  constructor
  · rintro ⟨before, chars, rest, rfl, hbefore, h⟩
    obtain ⟨gap, rfl, hgap⟩ := reads_nameOpening.1 h
    exact ⟨before, gap ++ '=' :: rest, by simp, hbefore, gap, rest, rfl, hgap⟩
  · rintro ⟨before, after, rfl, hbefore, gap, rest, rfl, hgap⟩
    refine ⟨before, name ++ (gap ++ ['=']), rest, by simp, hbefore, ?_⟩
    exact reads_nameOpening.2 ⟨gap, rfl, hgap⟩

theorem isIn_definitionPattern : (definitionPattern name).isIn line ↔
    ∃ before after, line = before ++ name ++ after ∧ Announces before ∧ OpensWith '(' after := by
  rw [definitionPattern, isIn_afterKeyword (by decide)]
  constructor
  · rintro ⟨head, chars, rest, rfl, hhead, h⟩
    obtain ⟨receiver, ys, rfl, hreceiver, h⟩ := reads_all_cons.1 h
    obtain ⟨gap, rfl, hgap⟩ := reads_nameOpening.1 h
    refine ⟨head ++ receiver, gap ++ '(' :: rest, by simp, ?_, gap, rest, rfl, hgap⟩
    exact ⟨head, receiver, rfl, hhead, reads_receiver.1 hreceiver⟩
  · rintro ⟨before, after, rfl, ⟨head, receiver, rfl, hhead, hreceiver⟩, gap, rest, rfl, hgap⟩
    refine ⟨head, receiver ++ (name ++ (gap ++ ['('])), rest, by simp, hhead, ?_⟩
    refine reads_all_cons.2 ⟨receiver, _, rfl, reads_receiver.2 hreceiver, ?_⟩
    exact reads_nameOpening.2 ⟨gap, rfl, hgap⟩

theorem reads_callPattern : (callPattern name).Reads before chars after ↔
    ∃ gap, chars = name ++ (gap ++ ['(']) ∧ gap.all isSpace ∧
      Bounded name ⟨before, gap ++ '(' :: after⟩ := by
  rw [callPattern, reads_all_cons]
  constructor
  · rintro ⟨xs, ys, rfl, hname, h⟩
    obtain ⟨gap, rfl, hgap⟩ := reads_opening.1 h
    obtain ⟨rfl, hbounded⟩ := reads_wholeName.1 hname
    exact ⟨gap, rfl, hgap, by simpa using hbounded⟩
  · rintro ⟨gap, rfl, hgap, hbounded⟩
    refine ⟨name, _, rfl, reads_wholeName.2 ⟨rfl, ?_⟩, reads_opening.2 ⟨gap, rfl, hgap⟩⟩
    simpa using hbounded

theorem isIn_callPattern : (callPattern name).isIn line ↔
    ∃ before after, line = before ++ name ++ after ∧ Bounded name ⟨before, after⟩ ∧
      OpensWith '(' after := by
  rw [isIn_iff]
  constructor
  · rintro ⟨before, chars, rest, rfl, h⟩
    obtain ⟨gap, rfl, hgap, hbounded⟩ := reads_callPattern.1 h
    exact ⟨before, gap ++ '(' :: rest, by simp, hbounded, gap, rest, rfl, hgap⟩
  · rintro ⟨before, after, rfl, hbounded, gap, rest, rfl, hgap⟩
    refine ⟨before, name ++ (gap ++ ['(']), rest, by simp, ?_⟩
    exact reads_callPattern.2 ⟨gap, rfl, hgap, hbounded⟩

/-! ## Lines that define and lines that call -/

theorem setting_of_isDefining (h : isDefining name line) : ∃ s ∈ settings name line,
    (Announces s.before ∧ OpensWith '(' s.after) ∨ OpensWith '=' s.after := by
  rw [isDefining, Bool.or_eq_true] at h
  rcases h with h | h
  · obtain ⟨before, after, hline, hbefore, hafter⟩ := isIn_definitionPattern.1 h
    refine ⟨⟨before, after⟩, mem_settings.2 ⟨hline, ?_, ?_⟩, .inl ⟨hbefore, hafter⟩⟩
    · exact isParted_of_left hbefore.isWordAt_getLast?
    · exact isParted_of_right (hafter.isWordAt_head? (by decide))
  · obtain ⟨before, after, hline, hbefore, hafter⟩ := isIn_assignmentPattern.1 h
    refine ⟨⟨before, after⟩, mem_settings.2 ⟨hline, ?_, ?_⟩, .inr hafter⟩
    · exact isParted_of_left hbefore.isWordAt_getLast?
    · exact isParted_of_right (hafter.isWordAt_head? (by decide))

theorem isDefining_of_announces {s : Setting} (hs : s ∈ settings name line)
    (hbefore : Announces s.before) (hafter : OpensWith '(' s.after) : isDefining name line := by
  have hline := (mem_settings.1 hs).1
  have hin := isIn_definitionPattern.2 ⟨s.before, s.after, hline, hbefore, hafter⟩
  rw [isDefining, hin, Bool.true_or]

theorem count_callPattern_pos (hname : IsFoundName name) :
    0 < (callPattern name).count line ↔ ∃ s ∈ settings name line, OpensWith '(' s.after := by
  rw [count_pos_iff, isIn_callPattern]
  constructor
  · rintro ⟨before, after, hline, hbounded, hafter⟩
    have hword := hafter.isWordAt_head? (by decide)
    have hstart := (hname.bounded_iff hword).1 hbounded
    exact ⟨⟨before, after⟩, mem_settings.2 ⟨hline, hstart, isParted_of_right hword⟩, hafter⟩
  · rintro ⟨s, hs, hafter⟩
    obtain ⟨hline, hstart, -⟩ := mem_settings.1 hs
    have hword := hafter.isWordAt_head? (by decide)
    exact ⟨s.before, s.after, hline, (hname.bounded_iff hword).2 hstart, hafter⟩

theorem callsOnLine_of_no_settings (hname : IsFoundName name) (h : settings name line = []) :
    callsOnLine name line = 0 := by
  have hcount : ¬ 0 < (callPattern name).count line := by
    rw [count_callPattern_pos hname, h]
    simp
  rw [callsOnLine]
  split
  · rfl
  · omega

theorem callsOnLine_eq_zero_iff (hname : IsFoundName name) {s : Setting}
    (h : settings name line = [s]) :
    callsOnLine name line = 0 ↔ Announces s.before ∨ ¬ OpensWith '(' s.after := by
  have hmem : s ∈ settings name line := by
    rw [h]
    exact List.mem_singleton_self s
  have hcount : 0 < (callPattern name).count line ↔ OpensWith '(' s.after := by
    rw [count_callPattern_pos hname, h]
    simp
  by_cases hafter : OpensWith '(' s.after
  · have hpos := hcount.2 hafter
    constructor
    · intro hzero
      rw [callsOnLine] at hzero
      split at hzero
      next hdefines =>
        obtain ⟨s', hs', hform⟩ := setting_of_isDefining hdefines
        rw [h] at hs'
        obtain rfl := List.mem_singleton.1 hs'
        rcases hform with ⟨hbefore, -⟩ | hassigned
        · exact .inl hbefore
        · -- one name cannot be followed by a parenthesis and by an equals sign
          have hparen := hafter.head?_dropWhile (by decide)
          rw [hassigned.head?_dropWhile (by decide)] at hparen
          cases hparen
      next => omega
    · rintro (hbefore | hnot)
      · rw [callsOnLine, if_pos (isDefining_of_announces hmem hbefore hafter)]
      · exact absurd hafter hnot
  · refine ⟨fun _ => .inr hafter, fun _ => ?_⟩
    have hnone : ¬ 0 < (callPattern name).count line := fun hpos => hafter (hcount.1 hpos)
    rw [callsOnLine]
    split
    · rfl
    · omega

end Lines

/-! ## Names that stand once -/

theorem totalCalls_eq_zero_iff {content name : String} (hname : IsFoundName name.toList)
    {s : Setting} (honce : settingsIn name content = [s]) :
    (edgeOfText (lines content.toList) name).totalCalls = 0 ↔
      Announces s.before ∨ ¬ OpensWith '(' s.after := by
  obtain ⟨first, line, last, hlines, hline, hothers⟩ := lines_of_settingsIn honce
  rw [edgeOfText_totalCalls_eq_zero_iff, hlines, ← callsOnLine_eq_zero_iff hname hline]
  constructor
  · intro h
    exact h line (by simp)
  · intro h l hl
    rcases List.mem_append.1 hl with hl | hl
    · exact callsOnLine_of_no_settings hname (hothers l (List.mem_append_left _ hl))
    · rcases List.mem_cons.1 hl with rfl | hl
      · exact h
      · exact callsOnLine_of_no_settings hname (hothers l (List.mem_append_right _ hl))

/-- The calls of the functions of a file in the file itself. -/
def callsOfOwn (parse : String → SyntaxTree) (content filename : String) : CallMap :=
  findCallsWith parse content filename
    ((extractFunctionsWith parse content filename).items.map FunctionDef.name)

theorem applyCall_totalCalls {calls : CallMap} {d : FunctionDef}
    (hcalls : ∀ e, calls.find? d.name = some e → 0 < e.totalCalls) :
    (applyCall calls d).totalCalls = some 0 ↔ calls.find? d.name = none := by
  rw [applyCall]
  cases h : calls.find? d.name with
  | none => simp [CallEdge.empty, default]
  | some e =>
    have hpos := hcalls e h
    simp
    omega

/-- A definition found by a pattern whose name stands but once in the text is uncalled just if a
keyword announces it, on the same line, or no parenthesis opens after its name on that line. -/
theorem uncalled_iff_announced (parse : String → SyntaxTree) {content filename : String}
    (htier : (extractFunctionsWith parse content filename).source = .pattern) {d : FunctionDef}
    (hd : d ∈ (extractFunctionsWith parse content filename).items) {s : Setting}
    (honce : settingsIn d.name content = [s]) :
    ((callsOfOwn parse content filename).find? d.name = none ↔
      Announces s.before ∨ ¬ OpensWith '(' s.after) ∧
    ((applyCall (callsOfOwn parse content filename) d).totalCalls = some 0 ↔
      Announces s.before ∨ ¬ OpensWith '(' s.after) := by
  have hmem : d.name ∈ (extractFunctionsWith parse content filename).items.map FunctionDef.name :=
    List.mem_map_of_mem hd
  rw [callsOfOwn, findCallsWith]
  rw [extractFunctionsWith] at htier hd
  cases hread : readWith parse content (.ofFilename filename) with
  | ok program =>
    rw [hread] at htier
    cases htier
  | error e =>
    rw [hread] at hd
    obtain ⟨before, after, hfound⟩ := foundIn_of_mem hd
    have hzero := totalCalls_eq_zero_iff hfound.name_found honce
    have hnone : (callsInText content
        ((extractFunctionsWith parse content filename).items.map FunctionDef.name)).find? d.name =
          none ↔ Announces s.before ∨ ¬ OpensWith '(' s.after := by
      rw [find?_callsInText, ← hzero]
      simp [hmem]
    refine ⟨hnone, ?_⟩
    rw [callsFrom, ← hnone]
    refine applyCall_totalCalls fun edge hedge => ?_
    rw [find?_callsInText] at hedge
    split at hedge
    next hcalled =>
      cases hedge
      exact hcalled.2
    next => cases hedge

/-- A function `load` found at the top of a text. -/
def loadDefinition (content file : String) : FunctionDef where
  name := "load"
  file := file
  line := 1
  code := content
  type := .function
  isTopLevel := true
  isClassMethod := none
  params := []
  returnsValue := false
  returnType := .void
  totalCalls := none
  callSites := none
  source := .pattern

theorem uncalled_load :
    (extractFunctionsWith .ofText "def load(path):\n  pass\n" "a.py").source = .pattern ∧
    loadDefinition "def load(path):\n  pass\n" "a.py" ∈
      (extractFunctionsWith .ofText "def load(path):\n  pass\n" "a.py").items ∧
    settingsIn "load" "def load(path):\n  pass\n" = [⟨"def ".toList, "(path):".toList⟩] ∧
    (callsOfOwn .ofText "def load(path):\n  pass\n" "a.py").find? "load" = none := by
  have htier : (extractFunctionsWith .ofText "def load(path):\n  pass\n" "a.py").source =
      .pattern := rfl
  have hd : loadDefinition "def load(path):\n  pass\n" "a.py" ∈
      (extractFunctionsWith .ofText "def load(path):\n  pass\n" "a.py").items := by
    decide +kernel
  have honce : settingsIn "load" "def load(path):\n  pass\n" =
      [⟨"def ".toList, "(path):".toList⟩] := by
    decide +kernel
  refine ⟨htier, hd, honce, (uncalled_iff_announced .ofText htier hd honce).1.2 (.inl ?_)⟩
  refine ⟨"def ".toList, [], rfl, ?_, .inl rfl⟩
  exact ⟨[], "def", by decide, [' '], rfl, by decide, by decide, by decide⟩

/-- A method of the class itself is defined here, and counts as called. -/
theorem load_counts_as_call :
    (extractFunctionsWith .ofText "def self.load(path)\nend\n" "a.rb").source = .pattern ∧
    (extractFunctionsWith .ofText "def self.load(path)\nend\n" "a.rb").items =
      [loadDefinition "def self.load(path)\nend\n" "a.rb"] ∧
    settingsIn "load" "def self.load(path)\nend\n" =
      [⟨"def self.".toList, "(path)".toList⟩] ∧
    (callsOfOwn .ofText "def self.load(path)\nend\n" "a.rb").find? "load" =
      some ⟨1, [⟨1, none⟩]⟩ := by
  refine ⟨rfl, ?_, ?_, ?_⟩ <;> decide +kernel

end CodeSurvey.References

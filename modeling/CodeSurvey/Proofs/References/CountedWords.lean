import CodeSurvey.Proofs.References.OwnDeclarations
import CodeSurvey.Proofs.Text.Scans

/-!
# Counted words

For names that are identifiers, what is counted line by line are words. The uses of a name are its
occurrences as a word on the lines that do not declare it, and its calls are those before an opening
parenthesis on the lines that do not define it.
-/

namespace CodeSurvey.References
open Text Text.Pattern Definitions

/-! ## Identifiers -/

/-- A letter of ASCII or an underscore, and then letters, digits and underscores. -/
def isIdentifier : List Char → Bool
  | [] => false
  | c :: rest => isAsciiNameStart c && rest.all isAsciiNamePart

section Identifiers
variable {name line : List Char}

theorem isWord_of_isAsciiNameStart {c : Char} (h : isAsciiNameStart c) : isWord c :=
  isWord_of_isAsciiNamePart (isAsciiNamePart_of_start h)

theorem parts_of_isIdentifier (h : isIdentifier name) :
    ∃ c rest, name = c :: rest ∧ isAsciiNameStart c ∧ ∀ d ∈ name, isAsciiNamePart d := by
  cases name with
  | nil => cases h
  | cons c rest =>
    rw [isIdentifier, Bool.and_eq_true, List.all_eq_true] at h
    refine ⟨c, rest, rfl, h.1, ?_⟩
    intro d hd
    cases hd with
    | head => exact isAsciiNamePart_of_start h.1
    | tail _ hd => exact h.2 d hd

theorem isNameEdge_of_isAsciiNamePart {c : Char} (h : isAsciiNamePart c) :
    isNameEdge (some c) = isWordAt (some c) := by
  have hascii := toNat_lt_of_isAsciiNamePart h
  simp [isNameEdge, isWordAt, isWord, isAlphanumeric, hascii]

theorem hasPlainEdges_of_isIdentifier (h : isIdentifier name) : HasPlainEdges name := by
  obtain ⟨c, rest, rfl, hstart, hparts⟩ := parts_of_isIdentifier h
  constructor
  · exact isNameEdge_of_isAsciiNamePart (hparts c List.mem_cons_self)
  · have hne : c :: rest ≠ [] := List.cons_ne_nil c rest
    rw [List.getLast?_eq_some_getLast hne]
    exact isNameEdge_of_isAsciiNamePart (hparts _ (List.getLast_mem hne))

/-- A pattern that reads an identifier as a word, and after it nothing that could be in one, starts
with a word. -/
theorem startsWord_of_reads {p : Pattern} {c : Char} {rest : List Char}
    (hname : isIdentifier (c :: rest))
    (hp : ∀ {before chars after}, p.Reads before chars after → ∃ tail, chars = c :: rest ++ tail ∧
      Bounded (c :: rest) ⟨before, tail ++ after⟩ ∧ ∀ d ∈ tail, isWord d = false) :
    p.StartsWord c := by
  obtain ⟨_, _, heq, hstart, hparts⟩ := parts_of_isIdentifier hname
  obtain ⟨rfl, rfl⟩ := List.cons.inj heq
  have hword := isWord_of_isAsciiNameStart hstart
  constructor
  · exact hword
  · intro before chars after hreads
    obtain ⟨tail, -, hbounded, -⟩ := hp hreads
    have hedge := (bounded_iff (hasPlainEdges_of_isIdentifier hname)).1 hbounded
    have hc : isWordAt (some c) := hword
    simpa [isParted, hc] using hedge.1
  · intro before chars after hreads
    obtain ⟨tail, hchars, -, htail⟩ := hp hreads
    refine ⟨rest, tail, hchars, ?_, ?_⟩
    · intro d hd
      exact isWord_of_isAsciiNamePart (hparts d (List.mem_cons_of_mem c hd))
    · intro hc
      rw [htail c hc] at hword
      cases hword

end Identifiers

/-! ## Words on a line -/

section Lines
variable {name line : List Char}

theorem begins_wholeName (hedges : HasPlainEdges name) {cut : Setting} :
    (wholeName name).Begins cut ↔ (settingAt? name cut).isSome := by
  rw [Option.isSome_iff_exists]
  constructor
  · rintro ⟨chars, after, hafter, hreads⟩
    obtain ⟨rfl, hbounded⟩ := reads_wholeName.1 hreads
    exact ⟨⟨cut.before, after⟩, settingAt?_eq_some.2
      ⟨by rw [← hafter], (bounded_iff hedges).1 hbounded⟩⟩
  · rintro ⟨s, hs⟩
    obtain ⟨rfl, hparted⟩ := settingAt?_eq_some.1 hs
    exact ⟨name, s.after, rfl, reads_wholeName.2 ⟨rfl, (bounded_iff hedges).2 hparted⟩⟩

theorem count_wholeName (hname : isIdentifier name) :
    (wholeName name).count line = (settings name line).length := by
  have hedges := hasPlainEdges_of_isIdentifier hname
  obtain ⟨c, rest, rfl, -, -⟩ := parts_of_isIdentifier hname
  have hstarts : (wholeName (c :: rest)).StartsWord c := by
    apply startsWord_of_reads hname
    intro before chars after hreads
    obtain ⟨rfl, hbounded⟩ := reads_wholeName.1 hreads
    exact ⟨[], by simp, hbounded, by simp⟩
  rw [hstarts.count_eq, settings, List.length_filterMap_eq_countP]
  apply List.countP_congr
  intro cut _
  simpa using begins_wholeName hedges

theorem begins_callPattern (hname : isIdentifier name) {cut : Setting} :
    (callPattern name).Begins cut ↔ ∃ s, settingAt? name cut = some s ∧ OpensWith '(' s.after := by
  have hedges := hasPlainEdges_of_isIdentifier hname
  constructor
  · rintro ⟨chars, after, hafter, hreads⟩
    obtain ⟨gap, rfl, hgap, hbounded⟩ := reads_callPattern.1 hreads
    refine ⟨⟨cut.before, gap ++ '(' :: after⟩, settingAt?_eq_some.2 ⟨?_, ?_⟩, gap, after, rfl, hgap⟩
    · obtain ⟨before, rest⟩ := cut
      simpa using hafter
    · exact (bounded_iff hedges).1 hbounded
  · rintro ⟨s, hs, gap, after, hafter, hgap⟩
    obtain ⟨rfl, hparted⟩ := settingAt?_eq_some.1 hs
    have hbounded : Bounded name ⟨s.before, gap ++ '(' :: after⟩ := by
      rw [← hafter]
      exact (bounded_iff hedges).2 hparted
    exact ⟨name ++ (gap ++ ['(']), after, by simp [hafter],
      reads_callPattern.2 ⟨gap, rfl, hgap, hbounded⟩⟩

/-- The words of a name on a line that a parenthesis opens after. -/
def openedSettings (name line : List Char) : List Setting :=
  (settings name line).filter fun s => OpensWith '(' s.after

theorem startsWord_callPattern {c : Char} {rest : List Char} (hname : isIdentifier (c :: rest)) :
    (callPattern (c :: rest)).StartsWord c := by
  apply startsWord_of_reads hname
  intro before chars after hreads
  obtain ⟨gap, rfl, hgap, hbounded⟩ := reads_callPattern.1 hreads
  refine ⟨gap ++ ['('], rfl, by simpa using hbounded, ?_⟩
  intro d hd
  rcases List.mem_append.1 hd with hd | hd
  · exact isWord_of_all_isSpace hgap d hd
  · obtain rfl := List.mem_singleton.1 hd
    decide

theorem count_callPattern (hname : isIdentifier name) :
    (callPattern name).count line = (openedSettings name line).length := by
  obtain ⟨c, rest, rfl, -, -⟩ := parts_of_isIdentifier hname
  have hstarts := startsWord_callPattern hname
  rw [hstarts.count_eq, openedSettings, ← List.countP_eq_length_filter, settings,
    List.countP_filterMap]
  apply List.countP_congr
  intro cut _
  have hbegins := @begins_callPattern (c :: rest) hname cut
  cases hs : settingAt? (c :: rest) cut with
  | none => simp [hbegins, hs]
  | some s => simp [hbegins, hs]

end Lines

/-! ## Uses -/

/-- A keyword of declarations stands before the name on a line, with white space between. -/
def DeclaresOn (name line : List Char) : Prop :=
  ∃ s ∈ settings name line, EndsInKeyword declaringKeywords s.before

instance (name : List Char) : DecidablePred (DeclaresOn name) := fun line =>
  inferInstanceAs (Decidable (∃ s ∈ settings name line, EndsInKeyword declaringKeywords s.before))

theorem declaresOn_iff {name line : List Char} (hname : isIdentifier name) :
    DeclaresOn name line ↔ isDeclaring name line := by
  have hedges := hasPlainEdges_of_isIdentifier hname
  rw [isDeclaring_iff]
  constructor
  · rintro ⟨s, hs, hkeyword⟩
    obtain ⟨hline, hparted⟩ := mem_settings.1 hs
    exact ⟨s, hline, (bounded_iff hedges).2 hparted, hkeyword⟩
  · rintro ⟨s, hline, hbounded, hkeyword⟩
    exact ⟨s, mem_settings.2 ⟨hline, (bounded_iff hedges).1 hbounded⟩, hkeyword⟩

theorem usesOnLine_eq {name line : List Char} (hname : isIdentifier name) :
    usesOnLine name line = if DeclaresOn name line then 0 else (settings name line).length := by
  rw [usesOnLine, count_wholeName hname]
  simp only [declaresOn_iff hname]

/-- An entry counts the occurrences of a name as a word on the lines that do not declare it, and
lists these lines. -/
structure CountsUses (name : List Char) (ls : List (List Char)) (e : UsageEntry) : Prop where
  total_eq : e.total =
    ((ls.filter fun line => ¬ DeclaresOn name line).flatMap (settings name)).length
  mem_lines : ∀ k, k ∈ e.lines ↔ ∃ i line, k = i + 1 ∧ ls[i]? = some line ∧
    ¬ DeclaresOn name line ∧ settings name line ≠ []
  increase : e.lines.Pairwise (· < ·)

theorem usesOnLine_pos_iff {name line : List Char} (hname : isIdentifier name) :
    0 < usesOnLine name line ↔ ¬ DeclaresOn name line ∧ settings name line ≠ [] := by
  rw [usesOnLine_eq hname]
  by_cases h : DeclaresOn name line <;> simp [h, List.length_pos_iff]

theorem countsUses_usageOfText {name : String} (hname : isIdentifier name.toList)
    (ls : List (List Char)) : CountsUses name.toList ls (usageOfText ls name) := by
  constructor
  · rw [usageOfText]
    dsimp only
    induction ls with
    | nil => rfl
    | cons line ls ih =>
      rw [List.map_cons, List.foldr_cons, ih, usesOnLine_eq hname]
      by_cases h : DeclaresOn name.toList line <;> simp [h]
  · intro k
    rw [usageOfText_lines, List.mem_filterMap]
    constructor
    · rintro ⟨⟨n, i⟩, hx, hk⟩
      obtain ⟨hpos, rfl⟩ := usedLine?_eq_some.1 hk
      rw [List.mem_zipIdx_iff_getElem?, List.getElem?_map, Option.map_eq_some_iff] at hx
      obtain ⟨line, hline, rfl⟩ := hx
      exact ⟨i, line, rfl, hline, (usesOnLine_pos_iff hname).1 hpos⟩
    · rintro ⟨i, line, rfl, hline, hused⟩
      refine ⟨(usesOnLine name.toList line, i), ?_, ?_⟩
      · rw [List.mem_zipIdx_iff_getElem?, List.getElem?_map, hline]
        rfl
      · exact usedLine?_eq_some.2 ⟨(usesOnLine_pos_iff hname).2 hused, rfl⟩
  · exact usageOfText_increase

/-- The variables of a file whose names are identifiers are used where their names stand as words,
but for the lines that declare them. -/
theorem usages_count_words (content : String) {vars : List VariableDef} {v : VariableDef}
    (hv : v ∈ vars) (hname : isIdentifier v.name.toList) :
    (((findUsages content (vars.map VariableDef.name)).find? v.name).isSome ↔
      ∃ line ∈ lines content.toList, ¬ DeclaresOn v.name.toList line ∧
        settings v.name.toList line ≠ []) ∧
    ∀ e, (findUsages content (vars.map VariableDef.name)).find? v.name = some e →
      CountsUses v.name.toList (lines content.toList) e := by
  have hmem : v.name ∈ vars.map VariableDef.name := List.mem_map_of_mem hv
  have hcounts := countsUses_usageOfText hname (lines content.toList)
  have hpos : 0 < (usageOfText (lines content.toList) v.name).total ↔
      ∃ line ∈ lines content.toList, ¬ DeclaresOn v.name.toList line ∧
        settings v.name.toList line ≠ [] := by
    have hzero := @usageOfText_total_eq_zero_iff (lines content.toList) v.name
    simp only [← usesOnLine_pos_iff hname]
    rw [Nat.pos_iff_ne_zero, Ne, hzero]
    simp [Nat.pos_iff_ne_zero]
  rw [find?_findUsages]
  simp only [hmem, true_and, hpos]
  constructor
  · split
    next hfound => exact iff_of_true rfl hfound
    next hnone => exact iff_of_false Bool.noConfusion hnone
  · intro e he
    split at he
    · cases he
      exact hcounts
    · cases he

theorem usages_count_words_x :
    declaredX ∈ [declaredX] ∧ isIdentifier "x".toList ∧
    ((findUsages "let x = 1;\nx = x+xx;\n_x" ["x"]).find? "x").isSome ∧
    CountsUses "x".toList (lines "let x = 1;\nx = x+xx;\n_x".toList) ⟨2, [2]⟩ := by
  have hv : declaredX ∈ [declaredX] := List.mem_cons_self
  have hname : isIdentifier declaredX.name.toList := by decide
  obtain ⟨hfound, hcounts⟩ := usages_count_words "let x = 1;\nx = x+xx;\n_x" hv hname
  refine ⟨hv, hname, hfound.2 ?_, hcounts ⟨2, [2]⟩ ?_⟩
  · decide +kernel
  · decide +kernel

/-! ## Calls -/

/-- A name is announced on a line and a parenthesis opens after it, or a keyword of declarations
stands before it and an equals sign after it. -/
def DefinesOn (name line : List Char) : Prop :=
  ∃ before after, line = before ++ name ++ after ∧
    (Announces before ∧ OpensWith '(' after ∨
      EndsInKeyword declaringKeywords before ∧ OpensWith '=' after)

theorem definesOn_iff {name line : List Char} : DefinesOn name line ↔ isDefining name line := by
  rw [isDefining, Bool.or_eq_true, isIn_definitionPattern, isIn_assignmentPattern]
  constructor
  · rintro ⟨before, after, hline, hcalled | hassigned⟩
    · exact .inl ⟨before, after, hline, hcalled⟩
    · exact .inr ⟨before, after, hline, hassigned⟩
  · rintro (⟨before, after, hline, hcalled⟩ | ⟨before, after, hline, hassigned⟩)
    · exact ⟨before, after, hline, .inl hcalled⟩
    · exact ⟨before, after, hline, .inr hassigned⟩

instance (name : List Char) : DecidablePred (DefinesOn name) := fun _ =>
  decidable_of_iff' _ definesOn_iff

theorem callsOnLine_eq {name line : List Char} (hname : isIdentifier name) :
    callsOnLine name line = if DefinesOn name line then 0 else (openedSettings name line).length := by
  rw [callsOnLine, count_callPattern hname]
  simp only [definesOn_iff]

/-- A site without a caller for each word of a name that a parenthesis opens after, on the lines
that do not define the name. -/
def openedSites (name : List Char) (ls : List (List Char)) : List CallSite :=
  ls.zipIdx.flatMap fun (line, i) =>
    if DefinesOn name line then [] else (openedSettings name line).map fun _ => ⟨i + 1, none⟩

theorem edgeOfText_callSites {name : String} (hname : isIdentifier name.toList)
    (ls : List (List Char)) : (edgeOfText ls name).callSites = openedSites name.toList ls := by
  rw [edgeOfText, siteLines, openedSites, List.zipIdx_map, List.map_flatMap, List.flatMap_map]
  apply List.flatMap_congr
  rintro ⟨line, i⟩ _
  simp only [Prod.map, id, callsOnLine_eq hname]
  split <;> simp [List.map_const']

theorem callsOnLine_pos_iff {name line : List Char} (hname : isIdentifier name) :
    0 < callsOnLine name line ↔
      ¬ DefinesOn name line ∧ ∃ s ∈ settings name line, OpensWith '(' s.after := by
  rw [callsOnLine_eq hname]
  by_cases h : DefinesOn name line <;> simp [h, List.length_pos_iff, openedSettings]

/-- The known names that are identifiers are called where they stand as words before an opening
parenthesis, but for the lines that define them. -/
theorem calls_count_words {parse : String → Script.SyntaxTree} {content filename : String}
    {e : Script.ParseError} (htier : Script.readWith parse content (.ofFilename filename) = .error e)
    {known : List String} {name : String} (hknown : name ∈ known)
    (hname : isIdentifier name.toList) :
    (((findCallsWith parse content filename known).find? name).isSome ↔
      ∃ line ∈ lines content.toList, ¬ DefinesOn name.toList line ∧
        ∃ s ∈ settings name.toList line, OpensWith '(' s.after) ∧
    ∀ edge, (findCallsWith parse content filename known).find? name = some edge →
      edge.callSites = openedSites name.toList (lines content.toList) ∧
      edge.totalCalls = edge.callSites.length ∧
      (edge.callSites.map CallSite.line).Pairwise (· ≤ ·) := by
  have hpos : 0 < (edgeOfText (lines content.toList) name).totalCalls ↔
      ∃ line ∈ lines content.toList, ¬ DefinesOn name.toList line ∧
        ∃ s ∈ settings name.toList line, OpensWith '(' s.after := by
    have hzero := @edgeOfText_totalCalls_eq_zero_iff (lines content.toList) name
    simp only [← callsOnLine_pos_iff hname]
    rw [Nat.pos_iff_ne_zero, Ne, hzero]
    simp [Nat.pos_iff_ne_zero]
  rw [findCallsWith, htier, callsFrom, find?_callsInText]
  simp only [hknown, true_and, hpos]
  constructor
  · split
    next hfound => exact iff_of_true rfl hfound
    next hnone => exact iff_of_false Bool.noConfusion hnone
  · intro edge hedge
    split at hedge
    · cases hedge
      exact ⟨edgeOfText_callSites hname _, edgeOfText_totalCalls, edgeOfText_sorted⟩
    · cases hedge

theorem calls_count_words_load :
    Script.readWith .ofText "def load(path):\n  load (path); reload()\n" (.ofFilename "a.py") =
      .error (.unsupported .python) ∧
    "load" ∈ ["load"] ∧ isIdentifier "load".toList ∧
    ((findCallsWith .ofText "def load(path):\n  load (path); reload()\n" "a.py"
      ["load"]).find? "load").isSome ∧
    openedSites "load".toList (lines "def load(path):\n  load (path); reload()\n".toList) =
      [⟨2, none⟩] := by
  have htier : Script.readWith .ofText "def load(path):\n  load (path); reload()\n"
      (.ofFilename "a.py") = .error (.unsupported .python) := rfl
  have hknown : "load" ∈ ["load"] := List.mem_cons_self
  have hname : isIdentifier "load".toList := by decide
  obtain ⟨hfound, hsites⟩ := calls_count_words htier hknown hname
  refine ⟨htier, hknown, hname, hfound.2 ?_, (hsites ⟨1, [⟨2, none⟩]⟩ ?_).1.symm⟩
  · decide +kernel
  · decide +kernel

end CodeSurvey.References

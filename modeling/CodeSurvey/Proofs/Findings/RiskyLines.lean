import CodeSurvey.Findings.Security
import CodeSurvey.Proofs.References.OwnDefinitions
import CodeSurvey.Proofs.Text.Lines
import CodeSurvey.Proofs.Text.Scans
import Mathlib.Data.List.Infix

/-!
# Risky lines

What each rule finds risky about a line, in terms of what stands on it and without patterns. A text
has one issue for each of its lines and each rule that the line shows, in the order of the lines and
then of the rules; no rule hides another.
-/

namespace CodeSurvey
open References Text Text.Pattern

/-! ## Keywords in any case -/

/-- Simple case folding, for the characters that it takes to ASCII: besides capital letters these
are the long s and the sign of kelvin. -/
def foldCase (c : Char) : Char :=
  if c = '\u017f' then 's' else if c = '\u212a' then 'k' else c.toLower

/-- Some characters spell a keyword, up to the case of letters. -/
def Spells (keyword : String) (chars : List Char) : Prop := chars.map foldCase = keyword.toList

instance (keyword : String) : DecidablePred (Spells keyword) := fun chars =>
  inferInstanceAs (Decidable (chars.map foldCase = keyword.toList))

theorem sameLetter_iff {letter c : Char} (hletter : letter.toNat < 0x80) :
    sameLetter letter c ↔ foldCase c = letter := by
  have hascii {d : Char} (hd : ¬ d.toNat < 0x80) : d ≠ letter := fun h => hd (h ▸ hletter)
  simp only [sameLetter, Bool.or_eq_true, Bool.and_eq_true, beq_iff_eq]
  by_cases hlong : c = '\u017f'
  · subst hlong
    have hne : Char.toLower '\u017f' ≠ letter := hascii (by decide)
    rw [show foldCase '\u017f' = 's' from rfl]
    constructor
    · rintro ((h | ⟨h, -⟩) | ⟨-, h⟩)
      · exact absurd h hne
      · exact h.symm
      · exact absurd h (by decide)
    · exact fun h => .inl (.inr ⟨h.symm, rfl⟩)
  · by_cases hkelvin : c = '\u212a'
    · subst hkelvin
      have hne : Char.toLower '\u212a' ≠ letter := hascii (by decide)
      rw [show foldCase '\u212a' = 'k' from rfl]
      constructor
      · rintro ((h | ⟨-, h⟩) | ⟨h, -⟩)
        · exact absurd h hne
        · exact absurd h hlong
        · exact h.symm
      · exact fun h => .inr ⟨h.symm, rfl⟩
    · rw [foldCase, if_neg hlong, if_neg hkelvin]
      exact ⟨fun h => by rcases h with (h | h) | h <;> tauto, fun h => .inl (.inl h)⟩

def isAscii (text : String) : Bool := text.toList.all fun c => c.toNat < 0x80

theorem reads_anyCase {keyword : String} (hkeyword : isAscii keyword)
    {before chars after : List Char} :
    (anyCase keyword).Reads before chars after ↔ Spells keyword chars := by
  rw [anyCase, Spells]
  simp only [isAscii, List.all_eq_true, decide_eq_true_eq] at hkeyword
  generalize keyword.toList = letters at hkeyword
  induction letters generalizing before chars with
  | nil => simp
  | cons letter letters ih =>
    have hletter := hkeyword letter List.mem_cons_self
    have hletters (before chars : List Char) := @ih before chars fun c hc =>
      hkeyword c (List.mem_cons_of_mem letter hc)
    rw [List.map_cons, reads_all_cons]
    constructor
    · rintro ⟨xs, ys, rfl, ⟨c, hc, rfl⟩, hys⟩
      rw [List.singleton_append, List.map_cons, (sameLetter_iff hletter).1 hc, (hletters _ _).1 hys]
    · intro h
      obtain ⟨c, rest, rfl, hc, hrest⟩ := List.map_eq_cons_iff.1 h
      exact ⟨[c], rest, rfl, ⟨c, (sameLetter_iff hletter).2 hc, rfl⟩, (hletters _ _).2 hrest⟩

theorem reads_anyKeyword {keywords : List String} (hkeywords : keywords.all isAscii)
    {before chars after : List Char} :
    (any (keywords.map anyCase)).Reads before chars after ↔ ∃ k ∈ keywords, Spells k chars := by
  rw [List.all_eq_true] at hkeywords
  rw [reads_any]
  constructor
  · rintro ⟨p, hp, h⟩
    obtain ⟨k, hk, rfl⟩ := List.mem_map.1 hp
    exact ⟨k, hk, (reads_anyCase (hkeywords k hk)).1 h⟩
  · rintro ⟨k, hk, h⟩
    exact ⟨anyCase k, List.mem_map_of_mem hk, (reads_anyCase (hkeywords k hk)).2 h⟩

/-! ## What the rules look for -/

def credentialKeywords : List String :=
  ["password", "passwd", "pwd", "secret", "api_key", "apikey", "token", "auth"]

def queryKeywords : List String := ["query", "execute", "select", "insert", "update", "delete"]

def IsQuote (c : Char) : Prop := c = '\'' ∨ c = '"'

/-- A quoted value of at least so many characters comes first. -/
def OpensQuoted (least : Nat) (rest : List Char) : Prop :=
  ∃ quote value quote' after, rest = quote :: (value ++ quote' :: after) ∧ IsQuote quote ∧
    (∀ c ∈ value, ¬ IsQuote c) ∧ least ≤ value.length ∧ IsQuote quote'

/-- An equals sign or a colon comes first, and then a quoted value, with white space about. -/
def OpensAssigned (least : Nat) (rest : List Char) : Prop :=
  ∃ gap sign gap' quoted, rest = gap ++ sign :: (gap' ++ quoted) ∧ gap.all isSpace ∧
    (sign = '=' ∨ sign = ':') ∧ gap'.all isSpace ∧ OpensQuoted least quoted

def HoldsSecret (line : List Char) : Prop :=
  ∃ before word after, line = before ++ word ++ after ∧
    (∃ k ∈ credentialKeywords, Spells k word) ∧ OpensAssigned 8 after

def ReadsElsewhere (line : List Char) : Prop :=
  "process.env".toList <:+: line ∨ "config.".toList <:+: line

/-- A keyword of queries ends somewhere, and a plus or the start of an insertion comes after. -/
def BuildsQuery (line : List Char) : Prop :=
  ∃ before word after, line = before ++ word ++ after ∧ (∃ k ∈ queryKeywords, Spells k word) ∧
    ("+".toList <:+: after ∨ "$\x7b".toList <:+: after)

/-- The call of an evaluation, or of a constructor of functions. -/
def RunsText (line : List Char) : Prop :=
  ∃ before word after, line = before ++ word ++ after ∧
    isWordAt before.getLast? ≠ isWordAt word.head? ∧
    (word = "eval".toList ∨ ∃ gap, word = "new".toList ++ gap ++ "Function".toList ∧
      gap.all isSpace ∧ gap ≠ []) ∧
    OpensWith '(' after

/-- What a rule asks of a line. -/
def SecurityRule.Shows (line : List Char) : SecurityRule → Prop
  | hardcodedSecret => HoldsSecret line ∧ ¬ ReadsElsewhere line
  | sqlInjection => BuildsQuery line
  | rawMarkup => "dangerouslySetInnerHTML".toList <:+: line
  | dynamicCode => RunsText line

/-! ## What the patterns find -/

section Patterns
variable {line before chars after rest : List Char}

theorem reads_quoteMark : quoteMark.Reads before chars after ↔ ∃ c, IsQuote c ∧ chars = [c] := by
  have hmark (c : Char) : "'\"".toList.contains c ↔ IsQuote c := by simp [IsQuote]
  simp only [quoteMark, oneOf, Reads, hmark]

theorem begins_quoted {least : Nat} :
    (all [quoteMark, run (fun c => c != '\'' && c != '"') least, quoteMark]).Begins
      ⟨before, rest⟩ ↔ OpensQuoted least rest := by
  have hplain (value : List Char) : value.all (fun c => c != '\'' && c != '"') ↔
      ∀ c ∈ value, ¬ IsQuote c := by simp [IsQuote]
  constructor
  · intro h
    obtain ⟨_, _, rfl, hopening, h⟩ := begins_all_cons.1 h
    obtain ⟨value, _, rfl, hvalue, h⟩ := begins_all_cons.1 h
    obtain ⟨_, after, rfl, hclosing, -⟩ := begins_all_cons.1 h
    obtain ⟨quote, hquote, rfl⟩ := reads_quoteMark.1 hopening
    obtain ⟨quote', hquote', rfl⟩ := reads_quoteMark.1 hclosing
    exact ⟨quote, value, quote', after, rfl, hquote, (hplain value).1 hvalue.1, hvalue.2, hquote'⟩
  · rintro ⟨quote, value, quote', after, rfl, hquote, hvalue, hleast, hquote'⟩
    refine begins_all_cons.2 ⟨[quote], _, rfl, reads_quoteMark.2 ⟨quote, hquote, rfl⟩, ?_⟩
    refine begins_all_cons.2 ⟨value, _, rfl, ⟨(hplain value).2 hvalue, hleast⟩, ?_⟩
    exact begins_all_cons.2 ⟨[quote'], after, rfl, reads_quoteMark.2 ⟨quote', hquote', rfl⟩,
      begins_all_nil⟩

theorem begins_assigned {ps : List Pattern} {least : Nat}
    (hps : ∀ before rest, (all ps).Begins ⟨before, rest⟩ ↔ OpensQuoted least rest) :
    (all (spaces :: oneOf "=:" :: spaces :: ps)).Begins ⟨before, rest⟩ ↔
      OpensAssigned least rest := by
  have hsign (c : Char) : "=:".toList.contains c ↔ c = '=' ∨ c = ':' := by simp
  constructor
  · intro h
    obtain ⟨gap, _, rfl, hgap, h⟩ := begins_all_cons.1 h
    obtain ⟨_, _, rfl, ⟨sign, hmark, rfl⟩, h⟩ := begins_all_cons.1 h
    obtain ⟨gap', quoted, rfl, hgap', h⟩ := begins_all_cons.1 h
    exact ⟨gap, sign, gap', quoted, rfl, reads_spaces.1 hgap, (hsign sign).1 hmark,
      reads_spaces.1 hgap', (hps _ _).1 h⟩
  · rintro ⟨gap, sign, gap', quoted, rfl, hgap, hmark, hgap', hquoted⟩
    refine begins_all_cons.2 ⟨gap, _, rfl, reads_spaces.2 hgap, ?_⟩
    refine begins_all_cons.2 ⟨[sign], _, rfl, ⟨sign, (hsign sign).2 hmark, rfl⟩, ?_⟩
    exact begins_all_cons.2 ⟨gap', quoted, rfl, reads_spaces.2 hgap', (hps _ _).2 hquoted⟩

theorem isIn_keyword (keywords : List String) {ps : List Pattern}
    (hkeywords : keywords.all isAscii) {Opens : List Char → Prop}
    (hps : ∀ before rest, rest <:+ line → ((all ps).Begins ⟨before, rest⟩ ↔ Opens rest)) :
    (all (any (keywords.map anyCase) :: ps)).isIn line ↔ ∃ before word after,
      line = before ++ word ++ after ∧ (∃ k ∈ keywords, Spells k word) ∧ Opens after := by
  rw [isIn_iff_begins]
  constructor
  · rintro ⟨before, rest, rfl, h⟩
    obtain ⟨word, after, rfl, hword, h⟩ := begins_all_cons.1 h
    refine ⟨before, word, after, by simp, (reads_anyKeyword hkeywords).1 hword, ?_⟩
    exact (hps _ after ⟨before ++ word, by simp⟩).1 h
  · rintro ⟨before, word, after, rfl, hword, hafter⟩
    refine ⟨before, word ++ after, by simp, ?_⟩
    refine begins_all_cons.2 ⟨word, after, rfl, (reads_anyKeyword hkeywords).2 hword, ?_⟩
    exact (hps _ after ⟨before ++ word, rfl⟩).2 hafter

theorem isIn_secretPattern : secretPattern.isIn line ↔ HoldsSecret line :=
  isIn_keyword credentialKeywords (by decide) fun _ _ _ =>
    begins_assigned fun _ _ => begins_quoted

theorem isIn_sqlPattern (hline : '\n' ∉ line) : sqlPattern.isIn line ↔ BuildsQuery line := by
  refine isIn_keyword queryKeywords (by decide) fun before rest hrest => ?_
  have hsame (between : List Char) (h : between <:+: rest) : between.all (· != '\n') := by
    rw [List.all_eq_true]
    rintro c hc
    have hmem := hrest.subset (h.subset hc)
    simpa using fun heq : c = '\n' => hline (heq ▸ hmem)
  constructor
  · intro h
    obtain ⟨between, _, rfl, -, h⟩ := begins_all_cons.1 h
    obtain ⟨mark, after, rfl, hmark, -⟩ := begins_all_cons.1 h
    obtain ⟨mark, hmem, rfl⟩ := reads_words.1 hmark
    have hin : mark.toList <:+: between ++ (mark.toList ++ after) := ⟨between, after, by simp⟩
    rcases List.mem_pair.1 hmem with rfl | rfl
    · exact .inl hin
    · exact .inr hin
  · have hbegins {mark : String} (hmem : mark ∈ ["+", "$\x7b"]) (h : mark.toList <:+: rest) :
        (all [run (· != '\n') 0, words ["+", "$\x7b"]]).Begins ⟨before, rest⟩ := by
      obtain ⟨between, after, hsplit⟩ := h
      have hpart : between <:+: rest := ⟨[], mark.toList ++ after, by simp [← hsplit]⟩
      refine begins_all_cons.2 ⟨between, mark.toList ++ after, by simp [← hsplit],
        ⟨hsame between hpart, Nat.zero_le _⟩, ?_⟩
      exact begins_all_cons.2 ⟨mark.toList, after, rfl, reads_words.2 ⟨mark, hmem, rfl⟩,
        begins_all_nil⟩
    rintro (h | h)
    · exact hbegins (by simp) h
    · exact hbegins (by simp) h

/-- The opening parenthesis after white space. -/
theorem begins_opening : (all [spaces, exactly "("]).Begins ⟨before, rest⟩ ↔ OpensWith '(' rest := by
  constructor
  · intro h
    obtain ⟨gap, _, rfl, hgap, h⟩ := begins_all_cons.1 h
    obtain ⟨_, after, rfl, hopening, -⟩ := begins_all_cons.1 h
    obtain rfl := reads_exactly.1 hopening
    exact ⟨gap, after, rfl, reads_spaces.1 hgap⟩
  · rintro ⟨gap, after, rfl, hgap⟩
    refine begins_all_cons.2 ⟨gap, _, rfl, reads_spaces.2 hgap, ?_⟩
    exact begins_all_cons.2 ⟨['('], after, rfl, reads_exactly.2 rfl, begins_all_nil⟩

theorem isIn_dynamicCodePattern : dynamicCodePattern.isIn line ↔ RunsText line := by
  rw [isIn_iff_begins]
  constructor
  · rintro ⟨before, rest, rfl, h⟩
    obtain ⟨p, hp, h⟩ := begins_any.1 h
    rcases List.mem_pair.1 hp with rfl | rfl
    · obtain ⟨hedge, h⟩ := begins_wordEdge.1 h
      obtain ⟨_, after, rfl, hword, h⟩ := begins_all_cons.1 h
      obtain rfl := reads_exactly.1 hword
      exact ⟨before, "eval".toList, after, by simp, hedge, .inl rfl, begins_opening.1 h⟩
    · obtain ⟨hedge, h⟩ := begins_wordEdge.1 h
      obtain ⟨_, _, rfl, hnew, h⟩ := begins_all_cons.1 h
      obtain ⟨gap, _, rfl, hgap, h⟩ := begins_all_cons.1 h
      obtain ⟨_, after, rfl, hfunction, h⟩ := begins_all_cons.1 h
      obtain rfl := reads_exactly.1 hnew
      obtain rfl := reads_exactly.1 hfunction
      exact ⟨before, "new".toList ++ gap ++ "Function".toList, after, by simp, hedge,
        .inr ⟨gap, rfl, reads_someSpace.1 hgap⟩, begins_opening.1 h⟩
  · rintro ⟨before, word, after, rfl, hedge, hword, hopens⟩
    refine ⟨before, word ++ after, by simp, begins_any.2 ?_⟩
    rcases hword with rfl | ⟨gap, rfl, hgap⟩
    · refine ⟨_, List.mem_cons_self, begins_wordEdge.2 ⟨hedge, ?_⟩⟩
      exact begins_all_cons.2 ⟨_, after, rfl, reads_exactly.2 rfl, begins_opening.2 hopens⟩
    · refine ⟨_, List.mem_cons_of_mem _ List.mem_cons_self, begins_wordEdge.2 ⟨hedge, ?_⟩⟩
      rw [List.append_assoc, List.append_assoc]
      refine begins_all_cons.2 ⟨_, _, rfl, reads_exactly.2 rfl, ?_⟩
      refine begins_all_cons.2 ⟨gap, _, rfl, reads_someSpace.2 hgap, ?_⟩
      exact begins_all_cons.2 ⟨_, after, rfl, reads_exactly.2 rfl, begins_opening.2 hopens⟩

theorem isIn_secretSourcePattern : secretSourcePattern.isIn line ↔ ReadsElsewhere line := by
  rw [secretSourcePattern, isIn_words]
  simp [ReadsElsewhere]

theorem appliesTo_iff (hline : '\n' ∉ line) (r : SecurityRule) :
    r.appliesTo line ↔ r.Shows line := by
  cases r with
  | hardcodedSecret =>
    rw [SecurityRule.appliesTo, Bool.and_eq_true, Bool.not_eq_true', isIn_secretPattern,
      ← Bool.not_eq_true, isIn_secretSourcePattern]
    rfl
  | sqlInjection => exact isIn_sqlPattern hline
  | rawMarkup => exact isIn_exactly
  | dynamicCode => exact isIn_dynamicCodePattern

end Patterns

/-! ## Deciding -/

theorem buildsQuery_iff {line : List Char} : BuildsQuery line ↔
    ∃ cut ∈ cuts line, ∃ cut' ∈ cuts cut.after, (∃ k ∈ queryKeywords, Spells k cut'.before) ∧
      ("+".toList <:+: cut'.after ∨ "$\x7b".toList <:+: cut'.after) := by
  constructor
  · rintro ⟨before, word, after, rfl, hword, hmark⟩
    exact ⟨⟨before, word ++ after⟩, mem_cuts.2 (List.append_assoc before word after),
      ⟨word, after⟩, mem_cuts.2 rfl, hword, hmark⟩
  · rintro ⟨cut, hcut, ⟨word, after⟩, hcut', hword, hmark⟩
    refine ⟨cut.before, word, after, ?_, hword, hmark⟩
    rw [mem_cuts.1 hcut, mem_cuts.1 hcut', List.append_assoc]

instance : DecidablePred HoldsSecret := fun _ => decidable_of_iff _ isIn_secretPattern

instance : DecidablePred ReadsElsewhere := fun _ => decidable_of_iff _ isIn_secretSourcePattern

instance : DecidablePred BuildsQuery := fun _ => decidable_of_iff' _ buildsQuery_iff

instance : DecidablePred RunsText := fun _ => decidable_of_iff _ isIn_dynamicCodePattern

instance (line : List Char) : DecidablePred (SecurityRule.Shows line)
  | .hardcodedSecret => inferInstanceAs (Decidable (HoldsSecret line ∧ ¬ ReadsElsewhere line))
  | .sqlInjection => inferInstanceAs (Decidable (BuildsQuery line))
  | .rawMarkup => inferInstanceAs (Decidable ("dangerouslySetInnerHTML".toList <:+: line))
  | .dynamicCode => inferInstanceAs (Decidable (RunsText line))

/-! ## Trimmed lines -/

/-- What is left of a line without the white space at its ends. -/
structure Trims (trimmed line : List Char) : Prop where
  parts : ∃ left right, line = left ++ trimmed ++ right ∧ left.all isSpace ∧ right.all isSpace
  starts : ∀ c ∈ trimmed.head?, isSpace c = false
  ends : ∀ c ∈ trimmed.getLast?, isSpace c = false

theorem trims_trimChars (line : List Char) : Trims (trimChars line) line := by
  have hhead (chars : List Char) : ∀ c ∈ (chars.dropWhile isSpace).head?, isSpace c = false := by
    intro c hc
    have hnot := List.head?_dropWhile_not isSpace chars
    rw [Option.mem_def.1 hc] at hnot
    simpa using hnot
  generalize hrest : line.dropWhile isSpace = rest
  have hline : line = line.takeWhile isSpace ++ rest := by
    rw [← hrest, List.takeWhile_append_dropWhile]
  have hsplit : rest = trimChars line ++ (rest.reverse.takeWhile isSpace).reverse := by
    rw [trimChars, hrest, ← List.reverse_append, List.takeWhile_append_dropWhile,
      List.reverse_reverse]
  constructor
  · refine ⟨line.takeWhile isSpace, (rest.reverse.takeWhile isSpace).reverse, ?_,
      List.all_takeWhile, ?_⟩
    · rw [List.append_assoc, ← hsplit]
      exact hline
    · rw [List.all_reverse]
      exact List.all_takeWhile
  · intro c hc
    apply hhead line c
    rw [hrest, hsplit, List.head?_append, hc]
    rfl
  · intro c hc
    apply hhead rest.reverse c
    rwa [trimChars, hrest, List.getLast?_reverse] at hc

/-! ## All lines -/

theorem issuesOnLine_eq {line : List Char} (hline : '\n' ∉ line) (file : String) (number : Nat) :
    issuesOnLine file number line =
      (SecurityRule.all.filter (SecurityRule.Shows line)).map
        (SecurityIssue.ofRule file number line) := by
  rw [issuesOnLine]
  congr 1
  apply List.filter_congr
  intro r _
  rw [Bool.eq_iff_iff, appliesTo_iff hline, decide_eq_true_iff]

/-- The issues of a text: line by line, and on a line rule by rule, one for each rule that the line
shows, with the number of the line and the line trimmed. -/
theorem issues_by_rule (content file : String) :
    findIssues content file = ((lines content.toList).zipIdx.flatMap fun (line, i) =>
      ([SecurityRule.hardcodedSecret, .sqlInjection, .rawMarkup, .dynamicCode].filter
          (SecurityRule.Shows line)).map fun r =>
        { severity := r.severity, title := r.title, file := file, path := file, line := i + 1,
          desc := r.description, code := String.ofList (trimChars line) }) ∧
    ∀ line ∈ lines content.toList, Trims (trimChars line) line := by
  refine ⟨?_, fun line _ => trims_trimChars line⟩
  rw [findIssues]
  apply List.flatMap_congr
  rintro ⟨line, i⟩ hmem
  have hline := not_mem_of_mem_lines (List.fst_mem_of_mem_zipIdx hmem)
  exact issuesOnLine_eq hline file (i + 1)

example : [SecurityRule.hardcodedSecret, .sqlInjection, .rawMarkup, .dynamicCode].filter
    (SecurityRule.Shows "eval (\"ſelect * from t where toKen='12345678'\" + a)".toList) =
      [.hardcodedSecret, .sqlInjection, .dynamicCode] := by decide +kernel

end CodeSurvey

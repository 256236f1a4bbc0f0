import CodeSurvey.Findings.Complexity
import CodeSurvey.Proofs.References.CountedWords

/-!
# Conditions

How conditions are counted. A condition is the word `if` before an opening parenthesis, and it
continues an alternative if the word `else` and white space stand right before it. The two patterns
are looked for apart from one another, and still each condition is counted once.
-/

namespace CodeSurvey
open Text Text.Pattern References

/-! ## Conditions by keyword -/

section Keywords
variable {keyword : String} {text before chars after : List Char}

theorem reads_conditionPattern : (conditionPattern keyword).Reads before chars after ↔
    isWordAt before.getLast? ≠ isWordAt (chars ++ after).head? ∧
    ∃ gap, chars = keyword.toList ++ (gap ++ ['(']) ∧ gap.all isSpace := by
  rw [conditionPattern, reads_wordEdge]
  exact and_congr Iff.rfl reads_nameOpening

/-- A keyword before a parenthesis is called like a name. -/
theorem reads_conditionPattern_iff (hkeyword : isIdentifier keyword.toList) :
    (conditionPattern keyword).Reads before chars after ↔
      (callPattern keyword.toList).Reads before chars after := by
  have hedges := hasPlainEdges_of_isIdentifier hkeyword
  obtain ⟨c, rest, hcons, hstart, -⟩ := parts_of_isIdentifier hkeyword
  have hword : isWordAt (some c) := isWord_of_isAsciiNameStart hstart
  have hopen (gap : List Char) (hgap : gap.all isSpace) :
      isWordAt (gap ++ '(' :: after).head? = false := by
    have hopens : OpensWith '(' (gap ++ '(' :: after) := ⟨gap, after, rfl, hgap⟩
    exact hopens.isWordAt_head? (by decide)
  rw [reads_conditionPattern, reads_callPattern, hcons]
  constructor
  · rintro ⟨hedge, gap, rfl, hgap⟩
    refine ⟨gap, rfl, hgap, ?_⟩
    rw [← hcons, bounded_iff hedges, hcons]
    constructor
    · exact (isParted_iff_left hword).2 hedge
    · exact isParted_of_right (hopen gap hgap)
  · rintro ⟨gap, rfl, hgap, hbounded⟩
    rw [← hcons, bounded_iff hedges, hcons] at hbounded
    exact ⟨(isParted_iff_left hword).1 hbounded.1, gap, rfl, hgap⟩

theorem startsWord_callPattern_of_keyword (hkeyword : isIdentifier keyword.toList) :
    ∃ c, (callPattern keyword.toList).StartsWord c := by
  obtain ⟨c, rest, hcons, -, -⟩ := parts_of_isIdentifier hkeyword
  rw [hcons] at hkeyword ⊢
  exact ⟨c, startsWord_callPattern hkeyword⟩

theorem startsWord_conditionPattern (hkeyword : isIdentifier keyword.toList) :
    ∃ c, (conditionPattern keyword).StartsWord c := by
  obtain ⟨c, hstarts⟩ := startsWord_callPattern_of_keyword hkeyword
  exact ⟨c, hstarts.congr fun _ _ _ => reads_conditionPattern_iff hkeyword⟩

theorem count_conditionPattern (hkeyword : isIdentifier keyword.toList) :
    (conditionPattern keyword).count text = (openedSettings keyword.toList text).length := by
  obtain ⟨c, hstarts⟩ := startsWord_callPattern_of_keyword hkeyword
  rw [← count_callPattern hkeyword]
  apply hstarts.count_congr
  intro before chars after
  exact reads_conditionPattern_iff hkeyword

end Keywords

/-! ## Alternatives -/

section Alternatives
variable {text before chars after gap : List Char}

theorem reads_elseIfPattern : elseIfPattern.Reads before chars after ↔
    isWordAt before.getLast? ≠ isWordAt (chars ++ after).head? ∧
    ∃ gap gap', chars = "else".toList ++ (gap ++ ("if".toList ++ (gap' ++ ['(']))) ∧
      gap.all isSpace ∧ gap ≠ [] ∧ gap'.all isSpace := by
  rw [elseIfPattern, reads_wordEdge]
  apply and_congr Iff.rfl
  constructor
  · intro h
    obtain ⟨word, ys, rfl, hword, h⟩ := reads_all_cons.1 h
    obtain ⟨gap, zs, rfl, hgap, h⟩ := reads_all_cons.1 h
    obtain ⟨gap', rfl, hgap'⟩ := reads_nameOpening.1 h
    obtain rfl := reads_exactly.1 hword
    obtain ⟨hspace, hne⟩ := reads_someSpace.1 hgap
    exact ⟨gap, gap', rfl, hspace, hne, hgap'⟩
  · rintro ⟨gap, gap', rfl, hspace, hne, hgap'⟩
    refine reads_all_cons.2 ⟨_, _, rfl, reads_exactly.2 rfl, ?_⟩
    refine reads_all_cons.2 ⟨_, _, rfl, reads_someSpace.2 ⟨hspace, hne⟩, ?_⟩
    exact reads_nameOpening.2 ⟨gap', rfl, hgap'⟩

theorem startsWord_elseIfPattern : elseIfPattern.StartsWord 'e' := by
  constructor
  · decide
  · intro before chars after hreads
    obtain ⟨hedge, gap, gap', rfl, -, -, -⟩ := reads_elseIfPattern.1 hreads
    have he : isWordAt (some 'e') := by decide
    simpa [he] using hedge
  · intro before chars after hreads
    obtain ⟨-, gap, gap', rfl, hgap, -, hgap'⟩ := reads_elseIfPattern.1 hreads
    -- what is left after the first letter holds it once more, at the end of the word
    have hword : "lse".toList.all isWord := by decide
    refine ⟨"lse".toList, gap ++ ("if".toList ++ (gap' ++ ['('])), rfl, List.all_eq_true.1 hword, ?_⟩
    have he : isSpace 'e' = false := by decide
    have hnone {xs : List Char} (hxs : xs.all isSpace) : 'e' ∉ xs := by
      intro hmem
      rw [List.all_eq_true.1 hxs _ hmem] at he
      cases he
    simp [hnone hgap, hnone hgap']

/-- The place of the condition in an alternative that starts at a cut. -/
def continued (cut : Setting) : Setting :=
  let gap := (cut.after.drop 4).takeWhile isSpace
  ⟨cut.before ++ "else".toList ++ gap, cut.after.drop (4 + gap.length + 2)⟩

theorem continued_eq (before after : List Char) (hgap : gap.all isSpace) :
    continued ⟨before, "else".toList ++ (gap ++ ("if".toList ++ after))⟩ =
      ⟨before ++ "else".toList ++ gap, after⟩ := by
  have htake : (gap ++ ("if".toList ++ after)).takeWhile isSpace = gap := by
    rw [List.takeWhile_append_of_pos (List.all_eq_true.1 hgap)]
    simp [show isSpace 'i' = false from by decide]
  have hgap' : (("else".toList ++ (gap ++ ("if".toList ++ after))).drop 4).takeWhile isSpace = gap :=
    htake
  have hrest : ("else".toList ++ (gap ++ ("if".toList ++ after))).drop (4 + gap.length + 2) =
      after := by
    have hshape : "else".toList ++ (gap ++ ("if".toList ++ after)) =
        ("else".toList ++ gap ++ "if".toList) ++ after := by
      simp
    rw [hshape]
    apply List.drop_left'
    simp
    omega
  simp only [continued, hgap', hrest]

/-- White space after the word is all that may follow it, so the word is in one place. -/
theorem before_inj {xs ys gap' : List Char} (hgap : gap.all isSpace) (hgap' : gap'.all isSpace)
    (h : xs ++ "else".toList ++ gap = ys ++ "else".toList ++ gap') : xs = ys := by
  have hend {zs : List Char} (hzs : zs.all isSpace) (us : List Char) :
      (us ++ "else".toList ++ zs).reverse.dropWhile isSpace = "esle".toList ++ us.reverse := by
    rw [List.reverse_append, List.dropWhile_append_of_pos]
    · simp [show isSpace 'e' = false from by decide]
    · intro c hc
      exact List.all_eq_true.1 hzs c (List.mem_reverse.1 hc)
  have hsame := congrArg (fun us => us.reverse.dropWhile isSpace) h
  simp only [hend hgap, hend hgap'] at hsame
  exact List.reverse_inj.1 (List.append_cancel_left hsame)

/-- The alternatives of a text that go on with a condition. -/
def alternatives (text : List Char) : List Setting :=
  (cuts text).filter elseIfPattern.Begins

theorem mem_alternatives {cut : Setting} : cut ∈ alternatives text ↔
    text = cut.before ++ cut.after ∧ isParted cut.before.getLast? (some 'e') ∧
    ∃ gap after, cut.after = "else".toList ++ (gap ++ ("if".toList ++ after)) ∧
      gap.all isSpace ∧ gap ≠ [] ∧ OpensWith '(' after := by
  have he : isWordAt (some 'e') := by decide
  rw [alternatives, List.mem_filter, mem_cuts, decide_eq_true_iff]
  apply and_congr Iff.rfl
  constructor
  · rintro ⟨chars, rest, hafter, hreads⟩
    obtain ⟨hedge, gap, gap', rfl, hgap, hne, hgap'⟩ := reads_elseIfPattern.1 hreads
    refine ⟨(isParted_iff_left he).2 hedge, gap, gap' ++ '(' :: rest, ?_, hgap, hne, ?_⟩
    · simpa using hafter
    · exact ⟨gap', rest, rfl, hgap'⟩
  · rintro ⟨hedge, gap, _, hafter, hgap, hne, gap', rest, rfl, hgap'⟩
    refine ⟨"else".toList ++ (gap ++ ("if".toList ++ (gap' ++ ['(']))), rest, by simp [hafter], ?_⟩
    exact reads_elseIfPattern.2 ⟨(isParted_iff_left he).1 hedge, gap, gap', rfl, hgap, hne, hgap'⟩

/-- The conditions of a text: the word `if` before an opening parenthesis. -/
def conditions (text : List Char) : List Setting := openedSettings "if".toList text

theorem mem_conditions {s : Setting} : s ∈ conditions text ↔
    text = s.before ++ "if".toList ++ s.after ∧ isParted s.before.getLast? (some 'i') ∧
    OpensWith '(' s.after := by
  rw [conditions, openedSettings, List.mem_filter, mem_settings, decide_eq_true_iff]
  constructor
  · rintro ⟨⟨htext, hstart, -⟩, hopens⟩
    exact ⟨htext, hstart, hopens⟩
  · rintro ⟨htext, hstart, hopens⟩
    exact ⟨⟨htext, hstart, isParted_of_right (hopens.isWordAt_head? (by decide))⟩, hopens⟩

theorem nodup_continued : ((alternatives text).map continued).Nodup := by
  apply List.Nodup.map_on
  · rintro ⟨before, after⟩ hcut ⟨before', after'⟩ hcut' h
    obtain ⟨htext, -, gap, rest, rfl, hgap, -, -⟩ := mem_alternatives.1 hcut
    obtain ⟨htext', -, gap', rest', rfl, hgap', -, -⟩ := mem_alternatives.1 hcut'
    rw [continued_eq _ _ hgap, continued_eq _ _ hgap'] at h
    obtain rfl := before_inj hgap hgap' (Setting.mk.inj h).1
    exact congrArg (Setting.mk before) (List.append_cancel_left (htext.symm.trans htext'))
  · exact (nodup_cuts text).filter _

/-- Just the conditions that continue an alternative are found in one. -/
theorem mem_continued {s : Setting} : s ∈ (alternatives text).map continued ↔
    s ∈ (conditions text).filter fun s => EndsInKeyword ["else"] s.before := by
  rw [List.mem_map, List.mem_filter, mem_conditions, decide_eq_true_iff]
  constructor
  · rintro ⟨⟨before, _⟩, hcut, rfl⟩
    obtain ⟨rfl, hedge, gap, rest, rfl, hgap, hne, hopens⟩ := mem_alternatives.1 hcut
    have hkeyword : EndsInKeyword ["else"] (before ++ "else".toList ++ gap) :=
      ⟨before, "else", List.mem_singleton_self _, gap, rfl, hedge, hgap, hne⟩
    rw [continued_eq _ _ hgap]
    exact ⟨⟨by simp, isParted_of_left hkeyword.isWordAt_getLast?, hopens⟩, hkeyword⟩
  · obtain ⟨_, after⟩ := s
    rintro ⟨⟨rfl, -, hopens⟩, start, keyword, hmem, gap, rfl, hedge, hgap, hne⟩
    obtain rfl := List.mem_singleton.1 hmem
    refine ⟨⟨start, "else".toList ++ (gap ++ ("if".toList ++ after))⟩, ?_, continued_eq _ _ hgap⟩
    exact mem_alternatives.2 ⟨by simp, hedge, gap, after, rfl, hgap, hne, hopens⟩

theorem count_elseIfPattern (text : List Char) : elseIfPattern.count text =
    ((conditions text).filter fun s => EndsInKeyword ["else"] s.before).length := by
  have hnodup : ((conditions text).filter fun s => EndsInKeyword ["else"] s.before).Nodup :=
    ((nodup_settings _ _).filter _).filter _
  -- each alternative leads to one condition, and no two lead to the same
  have hperm := (List.perm_ext_iff_of_nodup nodup_continued hnodup).2 fun s => mem_continued
  rw [startsWord_elseIfPattern.count_eq, List.countP_eq_length_filter, ← hperm.length_eq,
    List.length_map]
  rfl

theorem count_elseIfPattern_le (text : List Char) :
    elseIfPattern.count text ≤ (conditionPattern "if").count text := by
  rw [count_elseIfPattern, count_conditionPattern (by decide), conditions]
  exact List.length_filter_le _ _

end Alternatives

/-- A condition that continues an alternative is counted there and not again, and all others are
counted by themselves. -/
theorem scan_counts_conditions (content : String) :
    elseIfPattern.count content.toList ≤ (conditionPattern "if").count content.toList ∧
    (BranchCounts.scan content).ifCount + (BranchCounts.scan content).elseIfCount =
      (conditions content.toList).length ∧
    (BranchCounts.scan content).ifCount =
      ((conditions content.toList).filter fun s => ¬ EndsInKeyword ["else"] s.before).length ∧
    (BranchCounts.scan content).elseIfCount =
      ((conditions content.toList).filter fun s => EndsInKeyword ["else"] s.before).length := by
  have hall : (conditionPattern "if").count content.toList = (conditions content.toList).length :=
    count_conditionPattern (by decide)
  have helse := count_elseIfPattern content.toList
  have hsplit := List.length_eq_length_filter_add (l := conditions content.toList)
    fun s => decide (EndsInKeyword ["else"] s.before)
  simp only [BranchCounts.scan, BranchCounts.scanChars, decide_not]
  omega

example : (BranchCounts.scan "else else if if (a) else if (b)").ifCount = 1 := by decide +kernel

end CodeSurvey

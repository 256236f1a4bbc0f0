import CodeSurvey.Proofs.Text.FoundMatches
import CodeSurvey.References.Usages
import Mathlib.Data.List.Sort

/-!
# Whole names

Where the pattern for whole names matches, by which both calls and usages are counted. It asks for
an edge of a word at an end of the name that is a letter, a number or an underscore, but edges are
between word characters and others. Where the two classes agree on the ends of a name, the name is
found where it stands as a word and nowhere else. A name that ends in a mark is found inside longer
words too, and one that ends in a superscript is found only if a word goes on after it.
-/

namespace CodeSurvey.Text
open Pattern Place

variable {name text : List Char} {s t : Setting} {m : Match}

/-! ## Settings in a text -/

/-- What a name takes up of a text in its setting. -/
def Setting.stretch (s : Setting) (name : List Char) : Stretch :=
  ⟨between s.before (name ++ s.after), between (s.before ++ name) s.after⟩

theorem Setting.start_stretch (s : Setting) (name : List Char) :
    (s.stretch name).start.offset = s.before.length := rfl

theorem Setting.stop_stretch (s : Setting) (name : List Char) :
    (s.stretch name).stop.offset = s.before.length + name.length := List.length_append

theorem Setting.eq_of_length (h : s.before ++ name ++ s.after = t.before ++ name ++ t.after)
    (hlength : s.before.length = t.before.length) : s = t := by
  rw [List.append_assoc, List.append_assoc] at h
  obtain ⟨hbefore, hrest⟩ := List.append_inj h hlength
  have hafter := List.append_cancel_left hrest
  cases s
  cases t
  simp_all

/-- No two of the settings of a name share a part of the text. -/
def AreApart (name : List Char) (settings : List Setting) : Prop :=
  settings.Pairwise fun s t => s.before.length + name.length ≤ t.before.length

theorem AreApart.eq_of_over {ss : List Setting} (h : AreApart name ss) (hs : s ∈ ss) (ht : t ∈ ss)
    (hle : s.before.length ≤ t.before.length)
    (hlt : t.before.length < s.before.length + name.length) : s = t := by
  rcases eq_or_of_pairwise h hs ht with heq | hafter | hbefore
  · exact heq
  · omega
  · omega

/-! ## Matches and the edges that they have -/

/-- The matches in a text are occurrences with the edges that the pattern asks for, and such an
occurrence is missed only for an earlier match that reaches into it. -/
structure FindsBounded (name text : List Char) : Prop where
  bounded : ∀ m ∈ (wholeName name).findAll text, ∃ s : Setting,
    text = s.before ++ name ++ s.after ∧ Bounded name s ∧ m.whole = s.stretch name
  reached : ∀ s : Setting, text = s.before ++ name ++ s.after → Bounded name s →
    ∃ m ∈ (wholeName name).findAll text, GoesOver m s.before.length

theorem readsSome_wholeName (hname : name ≠ []) : (wholeName name).ReadsSome := by
  intro before chars after h
  rw [(reads_wholeName.1 h).1]
  exact hname

theorem findsBounded_wholeName (hname : name ≠ []) (text : List Char) :
    FindsBounded name text := by
  constructor
  · intro m hm
    obtain ⟨⟨before, hreach⟩, hmatch⟩ := mem_findAll hm
    obtain ⟨htext, hstart⟩ := eq_between_of_leads [] text hreach
    rw [List.nil_append] at hstart
    obtain ⟨chars, after, hrest, hstop, hreads⟩ := Matches.reads hmatch hstart
    obtain ⟨rfl, hbounded⟩ := reads_wholeName.1 hreads
    obtain ⟨⟨start, stop⟩, groups⟩ := m
    dsimp only at hstart hstop hrest htext
    refine ⟨⟨before, after⟩, ?_, hbounded, ?_⟩
    · rw [htext, hrest, List.append_assoc]
    · rw [hstart, hstop, hrest, Setting.stretch]
  · rintro s rfl hbounded
    have hbegins : (wholeName name).Begins ⟨s.before, name ++ s.after⟩ :=
      ⟨name, s.after, rfl, reads_wholeName.2 ⟨rfl, hbounded⟩⟩
    rw [List.append_assoc]
    exact exists_match_over (readsSome_wholeName hname) hbegins

theorem goesOver_iff (hm : m.whole = s.stretch name) {cut : Nat} :
    GoesOver m cut ↔ s.before.length ≤ cut ∧ cut < s.before.length + name.length := by
  rw [GoesOver, hm, Setting.start_stretch, Setting.stop_stretch]

/-! ## Matches and words -/

/-- Each match in a text is an occurrence of the name as a word, and if no two of these overlap,
the matches are all of them. -/
structure FindsWords (name text : List Char) : Prop where
  word : ∀ m ∈ (wholeName name).findAll text, ∃ s ∈ settings name text, m.whole = s.stretch name
  all_words : AreApart name (settings name text) →
    ((wholeName name).findAll text).map Match.whole =
      (settings name text).map fun s => s.stretch name

def Stretch.StartsBefore (a b : Stretch) : Prop := a.start.offset < b.start.offset

instance : Std.Irrefl Stretch.StartsBefore := ⟨fun a => Nat.lt_irrefl a.start.offset⟩

instance : Std.Antisymm Stretch.StartsBefore := ⟨fun _ _ h h' => absurd h' (Nat.lt_asymm h)⟩

theorem FindsBounded.increase (hname : name ≠ []) (h : FindsBounded name text) :
    (((wholeName name).findAll text).map Match.whole).Pairwise Stretch.StartsBefore := by
  rw [List.pairwise_map]
  refine (findAll_pairwise (wholeName name) text).imp_of_mem ?_
  intro m m' hm _ hreaches
  obtain ⟨s, -, -, hwhole⟩ := h.bounded m hm
  have hlength := List.length_pos_iff.2 hname
  have hstop := hreaches.offset_le
  rw [hwhole, Setting.stop_stretch] at hstop
  rw [Stretch.StartsBefore, hwhole, Setting.start_stretch]
  omega

theorem findsWords_of_hasPlainEdges (hname : name ≠ []) (hedges : HasPlainEdges name)
    (text : List Char) : FindsWords name text := by
  have hfinds := findsBounded_wholeName hname text
  have hword : ∀ m ∈ (wholeName name).findAll text,
      ∃ s ∈ settings name text, m.whole = s.stretch name := by
    intro m hm
    obtain ⟨s, htext, hbounded, hwhole⟩ := hfinds.bounded m hm
    exact ⟨s, mem_settings.2 ⟨htext, (bounded_iff hedges).1 hbounded⟩, hwhole⟩
  refine ⟨hword, fun hapart => ?_⟩
  -- both lists go from left to right, so it is enough that they have the same members
  apply List.Pairwise.eq_of_mem_iff (hfinds.increase hname)
    (List.pairwise_map.2 (settings_increase name text))
  intro stretch
  rw [List.mem_map, List.mem_map]
  constructor
  · rintro ⟨m, hm, rfl⟩
    obtain ⟨s, hs, hwhole⟩ := hword m hm
    exact ⟨s, hs, hwhole.symm⟩
  · rintro ⟨s, hs, rfl⟩
    obtain ⟨htext, hparted⟩ := mem_settings.1 hs
    obtain ⟨m, hm, hover⟩ := hfinds.reached s htext ((bounded_iff hedges).2 hparted)
    obtain ⟨t, ht, hwhole⟩ := hword m hm
    obtain ⟨hle, hlt⟩ := (goesOver_iff hwhole).1 hover
    rw [hapart.eq_of_over ht hs hle hlt] at hwhole
    exact ⟨m, hm, hwhole⟩

/-! ## Ends that are not plain -/

theorem Setting.alone_iff : name = s.before ++ name ++ s.after ↔ s = ⟨[], []⟩ := by
  constructor
  · intro h
    have htext : s.before ++ name ++ s.after = [] ++ name ++ [] := by simpa using h.symm
    have hlength := congrArg List.length htext
    simp only [List.length_append, List.length_nil] at hlength
    exact Setting.eq_of_length htext (by rw [List.length_nil]; omega)
  · rintro rfl
    simp

/-- By itself a name is a word. If it is found, it has the edges that are asked for. -/
theorem FindsWords.bounded_alone (hname : name ≠ []) (h : FindsWords name name) :
    Bounded name ⟨[], []⟩ := by
  have hsettings : ∀ s ∈ settings name name, s = ⟨[], []⟩ := fun s hs =>
    Setting.alone_iff.1 (mem_settings.1 hs).1
  have hapart : AreApart name (settings name name) := by
    refine (nodup_settings name name).imp_of_mem ?_
    intro s t hs ht hne
    rw [hsettings s hs, hsettings t ht] at hne
    exact absurd rfl hne
  have hword : (⟨[], []⟩ : Setting) ∈ settings name name :=
    mem_settings.2 ⟨Setting.alone_iff.2 rfl, isParted_of_left rfl, isParted_of_right rfl⟩
  have hmem : Setting.stretch ⟨[], []⟩ name ∈ ((wholeName name).findAll name).map Match.whole := by
    rw [h.all_words hapart]
    exact List.mem_map_of_mem hword
  obtain ⟨m, hm, -⟩ := List.mem_map.1 hmem
  obtain ⟨s, hs, hbounded, -⟩ := (findsBounded_wholeName hname name).bounded m hm
  rwa [Setting.alone_iff.1 hs] at hbounded

/-- Where a name is found as a word, its first occurrence is one if it has the edges asked for. -/
theorem FindsWords.parted_of_bounded (hname : name ≠ [])
    (h : FindsWords name (s.before ++ name ++ s.after)) (hbounded : Bounded name s)
    (hfirst : ∀ t : Setting, t.before ++ name ++ t.after = s.before ++ name ++ s.after →
      s.before.length ≤ t.before.length) :
    isParted s.before.getLast? name.head? ∧ isParted name.getLast? s.after.head? := by
  obtain ⟨m, hm, hover⟩ := (findsBounded_wholeName hname _).reached s rfl hbounded
  obtain ⟨t, ht, hwhole⟩ := h.word m hm
  obtain ⟨htext, hparted⟩ := mem_settings.1 ht
  have hle := ((goesOver_iff hwhole).1 hover).1
  have heq : t = s := Setting.eq_of_length htext.symm (Nat.le_antisymm hle (hfirst t htext.symm))
  rwa [heq] at hparted

theorem length_pos_of_head?_ne (hname : name ≠ []) {c : Char} {after : List Char}
    (hc : name.head? ≠ some c) (h : t.before ++ name ++ t.after = [c] ++ name ++ after) :
    0 < t.before.length := by
  rw [List.length_pos_iff]
  intro hnil
  obtain ⟨d, rest, rfl⟩ := List.exists_cons_of_ne_nil hname
  rw [hnil] at h
  have hd : d = c := (List.cons.inj h).1
  exact hc (congrArg some hd)

/-- A neighbour that gives an end of a name the edge of a word. -/
def contrast (c : Option Char) : List Char := if isWordAt c then [] else ['a']

theorem isWordAt_head?_contrast (c : Option Char) : isWordAt (contrast c).head? = !isWordAt c := by
  rw [contrast]
  cases isWordAt c <;> decide

theorem isWordAt_getLast?_contrast (c : Option Char) :
    isWordAt (contrast c).getLast? = !isWordAt c := by
  rw [contrast]
  cases isWordAt c <;> decide

theorem isNameEdge_head?_of_findsWords (hname : name ≠ []) (h : ∀ text, FindsWords name text)
    (hword : isWordAt name.head?) : isNameEdge name.head? := by
  by_contra hedge
  -- no edge is asked for at the start, so the name is found at the end of a longer word
  have hbounded : Bounded name ⟨['a'], contrast name.getLast?⟩ := by
    refine ⟨fun hstart => absurd hstart hedge, fun _ => ?_⟩
    rw [isWordAt_head?_contrast]
    exact (Bool.not_ne_self _).symm
  have hfirst : name.head? ≠ some 'a' := by
    intro ha
    rw [ha] at hedge
    exact hedge (by decide)
  have hparted := (h _).parted_of_bounded hname hbounded
    fun t ht => length_pos_of_head?_ne hname hfirst ht
  have ha : isWordAt (some 'a') := by decide
  simp [isParted, hword, ha] at hparted

theorem isNameEdge_getLast?_of_findsWords (hname : name ≠ []) (h : ∀ text, FindsWords name text)
    (hword : isWordAt name.getLast?) : isNameEdge name.getLast? := by
  by_contra hedge
  -- and here it is found at the start of one
  have hbounded : Bounded name ⟨contrast name.head?, ['a']⟩ := by
    refine ⟨fun _ => ?_, fun hend => absurd hend hedge⟩
    rw [isWordAt_getLast?_contrast]
    exact Bool.not_ne_self _
  have hfirst : ∀ t : Setting, t.before ++ name ++ t.after = contrast name.head? ++ name ++ ['a'] →
      (contrast name.head?).length ≤ t.before.length := by
    intro t ht
    by_cases hhead : isWordAt name.head?
    · rw [contrast, if_pos hhead]
      exact Nat.zero_le _
    · rw [contrast, if_neg hhead] at ht ⊢
      apply length_pos_of_head?_ne hname _ ht
      intro ha
      rw [ha] at hhead
      exact hhead (by decide)
  have hparted := (h _).parted_of_bounded hname hbounded hfirst
  have ha : isWordAt (some 'a') := by decide
  simp [isParted, hword, ha] at hparted

theorem hasPlainEdges_of_findsWords (hname : name ≠ []) (h : ∀ text, FindsWords name text) :
    HasPlainEdges name := by
  have halone := (h name).bounded_alone hname
  constructor
  · refine Bool.eq_iff_iff.2 ⟨fun hedge => ?_, isNameEdge_head?_of_findsWords hname h⟩
    simpa [isWordAt] using halone.starts hedge
  · refine Bool.eq_iff_iff.2 ⟨fun hedge => ?_, isNameEdge_getLast?_of_findsWords hname h⟩
    simpa [isWordAt] using halone.ends hedge

/-- Whatever the name, its matches have the edges that the pattern asks for. In every text they are
occurrences as a word, and all of these if none overlap, just if the first and the last character of
the name are word characters exactly if they are letters, numbers or underscores. -/
theorem finds_words_iff_plain {name : List Char} (hname : name ≠ []) :
    (∀ text, FindsBounded name text) ∧
    ((∀ text, FindsWords name text) ↔ HasPlainEdges name) :=
  ⟨findsBounded_wholeName hname, hasPlainEdges_of_findsWords hname,
    findsWords_of_hasPlainEdges hname⟩

theorem finds_words_iff_plain_dollar :
    "$el".toList ≠ [] ∧ FindsWords "$el".toList "a$el = $els".toList ∧
    settings "$el".toList "a$el = $els".toList = [⟨['a'], " = $els".toList⟩] := by
  have hname : "$el".toList ≠ [] := by decide
  have hedges : HasPlainEdges "$el".toList := by
    refine ⟨?_, ?_⟩ <;> decide
  exact ⟨hname, (finds_words_iff_plain hname).2.2 hedges _, by decide +kernel⟩

end CodeSurvey.Text

namespace CodeSurvey.References
open Text

/-- A name that ends in a mark is found in a longer word, and one that ends in a superscript is not
found before a semicolon. So the uses of both are miscounted. -/
theorem mark_found_in_longer_word :
    isWord '\u0301' ∧ ¬ FindsWords "cafe\u0301".toList "cafe\u0301s + x²;".toList ∧
    isWord '²' = false ∧ ¬ FindsWords "x²".toList "cafe\u0301s + x²;".toList ∧
    (findUsages "let cafe\u0301 = 1;\nlet x² = 2;\ncafe\u0301s + x²;\n"
      ["cafe\u0301", "x²"]).entries = [("cafe\u0301", ⟨1, [3]⟩)] := by
  refine ⟨by decide +kernel, ?_, by decide +kernel, ?_, by decide +kernel⟩
  · intro h
    have hnone : settings "cafe\u0301".toList "cafe\u0301s + x²;".toList = [] := by decide +kernel
    have hcount : 0 < (wholeName "cafe\u0301".toList).count "cafe\u0301s + x²;".toList := by
      decide +kernel
    obtain ⟨m, hm⟩ := List.exists_mem_of_length_pos hcount
    obtain ⟨s, hs, -⟩ := h.word m hm
    rw [hnone] at hs
    cases hs
  · intro h
    have hone : settings "x²".toList "cafe\u0301s + x²;".toList =
        [⟨"cafe\u0301s + ".toList, [';']⟩] := by decide +kernel
    have hcount : (wholeName "x²".toList).count "cafe\u0301s + x²;".toList = 0 := by
      decide +kernel
    have hapart : AreApart "x²".toList (settings "x²".toList "cafe\u0301s + x²;".toList) := by
      rw [hone]
      exact List.pairwise_singleton _ _
    have hlength := congrArg List.length (h.all_words hapart)
    rw [List.length_map, List.length_map, hone] at hlength
    exact absurd (hcount.symm.trans hlength) (by decide)

end CodeSurvey.References

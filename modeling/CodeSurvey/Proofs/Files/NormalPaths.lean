import CodeSurvey.Proofs.Files.Paths

/-!
# Normal paths

A path is spelled normally if it has no empty parts, no `.` and no `..`. What such a path is called
within a base tells where it leads from there, and it is the same for all normal paths that lead
there.
-/

namespace CodeSurvey.Path

/-- Names with single slashes between them, and before them if the path starts at the root. -/
inductive IsNormal : String → Prop
  | absolute {names : List String} (h : ∀ n ∈ names, IsName n) :
    IsNormal ("/" ++ "/".intercalate names)
  | relative {names : List String} (h : ∀ n ∈ names, IsName n) (hne : names ≠ []) :
    IsNormal ("/".intercalate names)

section Names
variable {names : List String} {base : String}

/-! ## Paths within a base -/

theorem dropParts_append (xs rest : List (String × Option Part)) :
    ∃ ts, dropParts (xs.filterMap Prod.snd) (xs ++ rest) = some ((ts ++ rest).map Prod.fst) ∧
      ∀ t ∈ ts, t ∈ xs ∧ t.2 = none := by
  induction xs with
  | nil =>
    refine ⟨[], ?_, fun t ht => absurd ht List.not_mem_nil⟩
    rw [List.filterMap_nil, dropParts, List.nil_append]
  | cons x xs ih =>
    obtain ⟨ts, hdrop, hts⟩ := ih
    obtain ⟨s, label⟩ := x
    cases label with
    | some p =>
      refine ⟨ts, ?_, fun t ht => ⟨List.mem_cons_of_mem _ (hts t ht).1, (hts t ht).2⟩⟩
      have hparts : ((s, some p) :: xs).filterMap Prod.snd = p :: xs.filterMap Prod.snd := rfl
      rw [hparts, List.cons_append, dropParts, if_pos rfl, hdrop]
    | none =>
      have hsame : ((s, none) :: xs).filterMap Prod.snd = xs.filterMap Prod.snd := rfl
      rw [hsame, List.cons_append]
      cases hparts : xs.filterMap Prod.snd with
      | cons p ps =>
        refine ⟨ts, ?_, fun t ht => ⟨List.mem_cons_of_mem _ (hts t ht).1, (hts t ht).2⟩⟩
        rw [dropParts, ← hparts, hdrop]
      | nil =>
        refine ⟨(s, none) :: xs, by rw [dropParts, List.cons_append], fun t ht => ⟨ht, ?_⟩⟩
        rcases List.mem_cons.1 ht with rfl | ht
        · rfl
        · exact List.filterMap_eq_nil_iff.1 hparts t ht

theorem trimmed_append {ts : List String} (hts : ∀ t ∈ ts, isTrivial t = true)
    (h : ∀ n ∈ names, IsName n) : trimmed (ts ++ names) = "/".intercalate names := by
  have hkept : ∀ n ∈ names, isTrivial n = false := by
    intro n hn
    rw [isTrivial, (h n hn).innerPart?]
    rfl
  have hdrop {ns : List String} (hns : ∀ n ∈ ns, isTrivial n = false) :
      ns.dropWhile isTrivial = ns := by
    cases ns with
    | nil => rfl
    | cons n ns => rw [List.dropWhile_cons, hns n List.mem_cons_self, if_neg Bool.false_ne_true]
  have hreversed : ∀ n ∈ names.reverse, isTrivial n = false := by simpa using hkept
  rw [trimmed, List.dropWhile_append_of_pos hts, hdrop hkept, hdrop hreversed,
    List.reverse_reverse]

theorem unreversed_reverse (before : List (String × Option Part)) (name : String) :
    unreversed (before ++ [(name, some (Part.name name))]).reverse =
      "/".intercalate (before.map Prod.fst ++ [name]) := by
  have hreverse : (before ++ [(name, some (Part.name name))]).reverse =
      (name, some (Part.name name)) :: before.reverse := by simp
  have hkept : dropTrivial ((name, some (Part.name name)) :: before.reverse) =
      (name, some (Part.name name)) :: before.reverse := rfl
  rw [hreverse, unreversed, hkept]
  simp

theorem map_fst_inners (ss : List String) : (inners ss).map Prod.fst = ss := by
  rw [inners, List.map_map]
  exact List.map_id'' (fun _ => rfl) ss

theorem unreversed_inners (before : List (String × Option Part)) (hne : names ≠ [])
    (h : ∀ n ∈ names, IsName n) :
    unreversed (before ++ inners names).reverse =
      "/".intercalate (before.map Prod.fst ++ names) := by
  rcases List.eq_nil_or_concat names with rfl | ⟨init, last, rfl⟩
  · exact absurd rfl hne
  · have hlast : innerPart? last = some (.name last) := (h last (by simp)).innerPart?
    have hinners : inners (init ++ [last]) = inners init ++ [(last, some (.name last))] := by
      rw [inners, List.map_append, List.map_singleton, hlast]
      rfl
    rw [List.concat_eq_append, hinners, ← List.append_assoc, unreversed_reverse,
      List.map_append, map_fst_inners, List.append_assoc]

theorem labelled_names (hne : names ≠ []) (h : ∀ n ∈ names, IsName n) :
    labelled names = inners names := by
  obtain ⟨n, names, rfl⟩ := List.exists_cons_of_ne_nil hne
  have hn := h n List.mem_cons_self
  rw [labelled_cons, hn.firstPart?, ← hn.innerPart?]
  rfl

theorem unreversed_of_isNormal {path : String} (h : IsNormal path) :
    unreversed (labelled (segments path)).reverse = path := by
  cases h with
  | @relative names h hne =>
    rw [segments_intercalate hne fun n hn => (h n hn).unslashed, labelled_names hne h,
      ← List.nil_append (inners names), unreversed_inners [] hne h]
    rfl
  | @absolute names h =>
    by_cases hne : names = []
    · subst hne
      decide
    · have hmore : names.isEmpty = false := by rwa [List.isEmpty_eq_false_iff]
      rw [segments_absolute hne fun n hn => (h n hn).unslashed, labelled_cons, hmore,
        ← List.singleton_append, unreversed_inners _ hne h, ← intercalate_segments ("/" ++ _),
        segments_absolute hne fun n hn => (h n hn).unslashed]
      rfl

theorem within_empty (path : String) :
    within "" path = unreversed (labelled (segments path)).reverse := by
  have hparts : parts "" = [] := by decide
  rw [within, hparts, dropParts]
  rfl

theorem within_join (h : ∀ n ∈ names, IsName n) :
    within base (join base ("/".intercalate names)) = "/".intercalate names := by
  by_cases hbase : base = ""
  · subst hbase
    by_cases hne : names = []
    · subst hne
      decide
    · rw [join_empty, within_empty]
      exact unreversed_of_isNormal (.relative h hne)
  · obtain ⟨xs, hlabelled, hxs, htrivial⟩ := labelled_join hbase (not_isAbsolute_intercalate h)
    obtain ⟨ts, hdrop, hts⟩ :=
      dropParts_append xs (inners (segments ("/".intercalate names)))
    have hempty : base.isEmpty = false := by simpa using hbase
    have hts' : ∀ t ∈ ts.map Prod.fst, isTrivial t = true := by
      intro t ht
      obtain ⟨x, hx, rfl⟩ := List.mem_map.1 ht
      exact htrivial x (hts x hx).1 (hts x hx).2
    rw [hxs, List.map_append, map_fst_inners] at hdrop
    rw [within, hlabelled, hdrop, hempty]
    by_cases hne : names = []
    · subst hne
      have hall : ∀ t ∈ ts.map Prod.fst ++ [""], isTrivial t = true := by
        intro t ht
        rcases List.mem_append.1 ht with ht | ht
        · exact hts' t ht
        · rw [List.mem_singleton.1 ht]
          rfl
      have htrimmed := trimmed_append hall h
      rwa [List.append_nil] at htrimmed
    · rw [segments_intercalate hne fun n hn => (h n hn).unslashed]
      exact trimmed_append hts' h

theorem dropParts_labelled (ps : List Part) (ys : List (String × Part)) :
    dropParts ps (ys.map fun y => (y.1, some y.2)) =
      if ps <+: ys.map Prod.snd then some ((ys.drop ps.length).map Prod.fst) else none := by
  induction ps generalizing ys with
  | nil =>
    rw [dropParts, if_pos List.nil_prefix, List.map_map]
    rfl
  | cons p ps ih =>
    cases ys with
    | nil => rw [List.map_nil, dropParts, if_neg (by simp)]
    | cons y ys =>
      rw [List.map_cons, dropParts, ih]
      by_cases hp : y.2 = p
      · simp [hp]
      · have hp' : p ≠ y.2 := fun h => hp h.symm
        simp [hp, hp']

theorem parts_ne_nil {path : String} (hpath : path ≠ "") : parts path ≠ [] := by
  obtain ⟨s, ss, hsegments⟩ := List.exists_cons_of_ne_nil (segments_ne_nil path)
  obtain ⟨p, -, hparts⟩ := parts_of_ne_empty hpath hsegments
  rw [hparts]
  exact List.cons_ne_nil p _

theorem within_root {base : String} (hbase : base ≠ "") :
    (parts base = [.root] ∧ within base "/" = "") ∨
      (¬ parts base <+: [.root] ∧ within base "/" = "/") := by
  have hlabelled : labelled (segments "/") = [("", some .root), ("", none)] := by decide
  have hempty : base.isEmpty = false := by simpa using hbase
  obtain ⟨p, ps, hparts⟩ := List.exists_cons_of_ne_nil (parts_ne_nil hbase)
  rw [within, hparts, hlabelled, hempty, dropParts]
  by_cases hp : p = .root
  · subst hp
    rw [if_pos rfl]
    cases ps with
    | nil => exact .inl ⟨rfl, by decide⟩
    | cons q qs => exact .inr ⟨by simp, rfl⟩
  · have hp' : Part.root ≠ p := fun h => hp h.symm
    rw [if_neg hp']
    exact .inr ⟨by simp [hp], rfl⟩

theorem within_absolute {base : String} (hbase : base ≠ "") (hne : names ≠ [])
    (h : ∀ n ∈ names, IsName n) :
    within base ("/" ++ "/".intercalate names) =
      if parts base <+: .root :: names.map .name then
        "/".intercalate (names.drop ((parts base).length - 1))
      else "/" ++ "/".intercalate names := by
  have hmore : names.isEmpty = false := by rwa [List.isEmpty_eq_false_iff]
  have hempty : base.isEmpty = false := by simpa using hbase
  have hlabelled : labelled (segments ("/" ++ "/".intercalate names)) =
      (("", Part.root) :: names.map fun n => (n, Part.name n)).map fun y => (y.1, some y.2) := by
    rw [segments_absolute hne fun n hn => (h n hn).unslashed, labelled_cons, hmore, inners,
      List.map_cons, List.map_map]
    exact congrArg _ (List.map_congr_left fun n hn => by rw [(h n hn).innerPart?]; rfl)
  have hsnd : (("", Part.root) :: names.map fun n => (n, Part.name n)).map Prod.snd =
      .root :: names.map .name := by simp
  obtain ⟨p, ps, hparts⟩ := List.exists_cons_of_ne_nil (parts_ne_nil hbase)
  rw [within, hlabelled, dropParts_labelled, hsnd, hempty]
  by_cases hstarts : parts base <+: .root :: names.map .name
  · have hdrop : ((("", Part.root) :: names.map fun n => (n, Part.name n)).drop
        (parts base).length).map Prod.fst = names.drop ((parts base).length - 1) := by
      simp [hparts, ← List.map_drop, Function.comp_def]
    have hkept : ∀ n ∈ names.drop ((parts base).length - 1), IsName n :=
      fun n hn => h n (List.mem_of_mem_drop hn)
    rw [if_pos hstarts, if_pos hstarts, hdrop]
    have htrimmed := trimmed_append (List.forall_mem_nil _) hkept
    rw [List.nil_append] at htrimmed
    simp only [Bool.false_eq_true, if_false, htrimmed]
  · rw [if_neg hstarts, if_neg hstarts]

/-- What a path is called within a base: where it leads from there, or, if it does not lead within
the base, the path itself. -/
theorem within_cases {path : String} (h : IsNormal path) (base : String) :
    (∃ names, (∀ n ∈ names, IsName n) ∧
      parts (join base path) = parts base ++ names.map .name ∧
      within base (join base path) = "/".intercalate names) ∨
    (isAbsolute path = true ∧ (base = "" ∨ ¬ parts base <+: parts path) ∧
      within base (join base path) = path) := by
  cases h with
  | @relative names h hne => exact .inl ⟨names, h, parts_join h, within_join h⟩
  | @absolute names h =>
    have habsolute := isAbsolute_absolute ("/".intercalate names)
    rw [join_of_absolute habsolute, parts_absolute h]
    by_cases hbase : base = ""
    · subst hbase
      refine .inr ⟨habsolute, .inl rfl, ?_⟩
      rw [within_empty]
      exact unreversed_of_isNormal (.absolute h)
    by_cases hne : names = []
    · subst hne
      rcases within_root hbase with ⟨hparts, hwithin⟩ | ⟨hstarts, hwithin⟩
      · exact .inl ⟨[], h, by rw [hparts]; rfl, hwithin⟩
      · exact .inr ⟨habsolute, .inr hstarts, hwithin⟩
    · rw [within_absolute hbase hne h]
      by_cases hstarts : parts base <+: .root :: names.map .name
      · rw [if_pos hstarts]
        refine .inl ⟨names.drop ((parts base).length - 1),
          fun n hn => h n (List.mem_of_mem_drop hn), ?_, rfl⟩
        obtain ⟨rest, hrest⟩ := hstarts
        obtain ⟨p, ps, hparts⟩ := List.exists_cons_of_ne_nil (parts_ne_nil hbase)
        have hdrop : (Part.root :: names.map .name).drop (parts base).length = rest := by
          rw [← hrest, List.drop_left]
        rw [← hrest, List.map_drop, ← hdrop, hparts]
        rfl
      · rw [if_neg hstarts]
        exact .inr ⟨habsolute, .inr hstarts, rfl⟩

end Names

/-! ## Common spellings -/

theorem isInner_of_innerPart? {s : String} {p : Part} (hs : '/' ∉ s.toList)
    (h : innerPart? s = some p) : IsInner p := by
  rw [innerPart?.eq_def] at h
  split at h
  · cases h
  · cases h
  · cases h
    exact .up
  next hempty hhere hup =>
    cases h
    exact .name ⟨hempty, hhere, hup, hs⟩

theorem isInner_of_mem_inners {ss : List String} (hss : ∀ s ∈ ss, '/' ∉ s.toList) {p : Part}
    (h : p ∈ (inners ss).filterMap Prod.snd) : IsInner p := by
  obtain ⟨⟨s, label⟩, hs, hlabel⟩ := List.mem_filterMap.1 h
  obtain ⟨t, ht, heq⟩ := List.mem_map.1 hs
  cases heq
  exact isInner_of_innerPart? (hss _ ht) hlabel

def StartsPath (p : Part) : Prop := p = .root ∨ p = .here ∨ IsInner p

theorem startsPath_of_firstPart? {alone : Bool} {s : String} {p : Part} (hs : '/' ∉ s.toList)
    (h : firstPart? alone s = some p) : StartsPath p := by
  rw [firstPart?.eq_def] at h
  split at h
  · split at h
    · cases h
    · cases h
      exact .inl rfl
  · cases h
    exact .inr (.inl rfl)
  · cases h
    exact .inr (.inr .up)
  next hempty hhere hup =>
    cases h
    exact .inr (.inr (.name ⟨hempty, hhere, hup, hs⟩))

theorem parts_shape (path : String) : parts path = [] ∨
    ∃ p ps, parts path = p :: ps ∧ StartsPath p ∧ ∀ q ∈ ps, IsInner q := by
  obtain ⟨s, ss, hsegments⟩ := List.exists_cons_of_ne_nil (segments_ne_nil path)
  have hunslashed : ∀ t ∈ s :: ss, '/' ∉ t.toList :=
    fun t ht => unslashed_of_mem_segments (hsegments ▸ ht)
  obtain ⟨hs, hss⟩ := List.forall_mem_cons.1 hunslashed
  by_cases hpath : path = ""
  · subst hpath
    exact .inl (by decide)
  · obtain ⟨p, hp, hparts⟩ := parts_of_ne_empty hpath hsegments
    exact .inr ⟨p, _, hparts, startsPath_of_firstPart? hs hp,
      fun q hq => isInner_of_mem_inners hss hq⟩

theorem StartsPath.unslashed {p : Part} (h : StartsPath p) : '/' ∉ p.text.toList := by
  rcases h with rfl | rfl | h
  · decide
  · decide
  · exact h.unslashed

theorem StartsPath.firstPart? {p : Part} (h : StartsPath p) {alone : Bool}
    (hroot : p = .root → alone = false) : firstPart? alone p.text = some p := by
  rcases h with rfl | rfl | h
  · rw [hroot rfl]
    rfl
  · rfl
  · exact h.firstPart? alone

theorem ofParts_eq {ps : List Part} (h : ps ≠ [.root]) :
    ofParts ps = "/".intercalate (ps.map Part.text) := by
  rw [ofParts.eq_def]
  split
  · exact absurd rfl h
  · rfl

theorem parts_ofParts (path : String) : parts (ofParts (parts path)) = parts path := by
  rcases parts_shape path with hnil | ⟨p, ps, hparts, hp, hps⟩
  · rw [hnil]
    decide
  · rw [hparts]
    by_cases hroot : p :: ps = [.root]
    · rw [hroot]
      decide
    · have hunslashed : ∀ t ∈ (p :: ps).map Part.text, '/' ∉ t.toList := by
        intro t ht
        obtain ⟨q, hq, rfl⟩ := List.mem_map.1 ht
        rcases List.mem_cons.1 hq with rfl | hq
        · exact hp.unslashed
        · exact (hps q hq).unslashed
      have hsegments : segments (ofParts (p :: ps)) = p.text :: ps.map Part.text := by
        rw [ofParts_eq hroot]
        exact segments_intercalate (by simp) hunslashed
      have hfirst : firstPart? (ps.map Part.text).isEmpty p.text = some p := by
        refine hp.firstPart? fun hp' => ?_
        cases ps with
        | nil => exact absurd (congrArg (fun q => [q]) hp') hroot
        | cons q qs => rfl
      rw [parts_of_segments hsegments, hfirst, filterMap_inners hps]
      rfl

theorem ofParts_parts_inj {a b : String} (h : ofParts (parts a) = ofParts (parts b)) :
    parts a = parts b := by
  rw [← parts_ofParts a, h, parts_ofParts]

/-! ## Normal spellings -/

theorem texts_of_names (names : List String) : (names.map Part.name).map Part.text = names := by
  rw [List.map_map]
  exact List.map_id'' (fun _ => rfl) names

theorem intercalate_empty_cons {names : List String} (hne : names ≠ []) :
    "/".intercalate ("" :: names) = "/" ++ "/".intercalate names := by
  cases names with
  | nil => exact absurd rfl hne
  | cons n names => rw [String.intercalate_cons_cons, String.empty_append]

theorem ofParts_parts {path : String} (h : IsNormal path) : ofParts (parts path) = path := by
  cases h with
  | @relative names h hne =>
    have hroot : names.map Part.name ≠ [.root] := by cases names <;> simp
    rw [parts_intercalate h, ofParts_eq hroot, texts_of_names]
  | @absolute names h =>
    rw [parts_absolute h]
    by_cases hne : names = []
    · subst hne
      decide
    · have hroot : Part.root :: names.map .name ≠ [.root] := by simpa using hne
      rw [ofParts_eq hroot, List.map_cons, texts_of_names, ← intercalate_empty_cons hne]
      rfl

theorem IsNormal.eq_of_parts {a b : String} (ha : IsNormal a) (hb : IsNormal b)
    (h : parts a = parts b) : a = b := by
  rw [← ofParts_parts ha, h, ofParts_parts hb]

theorem not_endsInSlash {path name : String} {ss : List String} (hname : IsName name)
    (h : segments path = ss ++ [name]) : endsInSlash path = false := by
  rw [← Bool.not_eq_true, endsInSlash_iff]
  rintro ⟨a, rfl⟩
  have happend := segments_append_slash a ""
  rw [String.append_empty, h] at happend
  have hlast := congrArg List.getLast? happend
  have hempty : segments "" = [""] := by decide
  rw [hempty, List.getLast?_concat, List.getLast?_concat] at hlast
  exact hname.ne_empty (Option.some.inj hlast)

theorem join_names {base path name : String} {ss : List String} (hname : IsName name)
    (h : segments base = ss ++ [name]) (hpath : isAbsolute path = false) :
    join base path = base ++ "/" ++ path := by
  have hbase : base.isEmpty = false := by
    have hne : base ≠ "" := by
      rintro rfl
      have hlast := congrArg List.getLast? h
      rw [List.getLast?_concat] at hlast
      exact hname.ne_empty (Option.some.inj hlast).symm
    simpa using hne
  rw [join, hpath, hbase, not_endsInSlash hname h]
  rfl

theorem segments_join_name {name : String} (h : IsName name) (base : String) :
    ∃ ss, segments (join base name) = ss ++ [name] := by
  have hname : segments name = [name] := by
    have hone : ∀ t ∈ [name], '/' ∉ t.toList := by simpa using h.unslashed
    exact segments_intercalate (List.cons_ne_nil name []) hone
  by_cases hbase : base = ""
  · subst hbase
    exact ⟨[], by rw [join_empty, hname]; rfl⟩
  · have hrelative : isAbsolute name = false := not_isAbsolute_of_segments hname h.ne_empty
    obtain ⟨s, ss, hsegments, -⟩ := segments_join hbase hrelative
    exact ⟨s :: ss, by rw [hsegments, hname]⟩

/-- What is put before a path that does not start at the root depends on the base only. -/
theorem exists_join (base : String) :
    ∃ front, ∀ path, isAbsolute path = false → join base path = front ++ path := by
  by_cases h : (base.isEmpty || endsInSlash base) = true
  · refine ⟨base, fun path hpath => ?_⟩
    rw [join, hpath, if_neg Bool.false_ne_true, if_pos h]
  · refine ⟨base ++ "/", fun path hpath => ?_⟩
    rw [join, hpath, if_neg Bool.false_ne_true, if_neg h]

/-- Entering one directory after the other is entering them at once. -/
theorem foldl_join {names : List String} (h : ∀ n ∈ names, IsName n) (hne : names ≠ [])
    (base : String) : names.foldl join base = join base ("/".intercalate names) := by
  induction names generalizing base with
  | nil => exact absurd rfl hne
  | cons n rest ih =>
    obtain ⟨hn, hrest⟩ := List.forall_mem_cons.1 h
    cases rest with
    | nil => rw [List.foldl_cons, List.foldl_nil, String.intercalate_singleton]
    | cons m later =>
      have hrelative : isAbsolute n = false :=
        not_isAbsolute_intercalate (List.forall_mem_singleton.2 hn)
      have hrelative' := not_isAbsolute_intercalate h
      have hlater := not_isAbsolute_intercalate hrest
      obtain ⟨ss, hsegments⟩ := segments_join_name hn base
      obtain ⟨front, hfront⟩ := exists_join base
      rw [List.foldl_cons, ih hrest (List.cons_ne_nil m later), join_names hn hsegments hlater,
        hfront n hrelative, hfront _ hrelative', String.intercalate_cons_cons]
      simp only [String.append_assoc]

section Join
variable {place names : List String}

theorem exists_concat (hplace : ∀ n ∈ place, IsName n) (hne : place ≠ []) :
    ∃ before name, place = before ++ [name] ∧ IsName name := by
  rcases List.eq_nil_or_concat place with rfl | ⟨before, name, rfl⟩
  · exact absurd rfl hne
  · rw [List.concat_eq_append] at hplace ⊢
    exact ⟨before, name, rfl, hplace name (by simp)⟩

theorem join_relative (hplace : ∀ n ∈ place, IsName n) (hne : place ≠ [])
    (h : ∀ n ∈ names, IsName n) (hne' : names ≠ []) :
    join ("/".intercalate place) ("/".intercalate names) = "/".intercalate (place ++ names) := by
  obtain ⟨before, name, hconcat, hname⟩ := exists_concat hplace hne
  have hsegments : segments ("/".intercalate place) = before ++ [name] := by
    rw [← hconcat]
    exact segments_intercalate hne fun n hn => (hplace n hn).unslashed
  rw [join_names hname hsegments (not_isAbsolute_intercalate h),
    String.intercalate_append_of_ne_nil hne hne']

theorem join_absolute (hplace : ∀ n ∈ place, IsName n) (h : ∀ n ∈ names, IsName n)
    (hne : names ≠ []) :
    join ("/" ++ "/".intercalate place) ("/".intercalate names) =
      "/" ++ "/".intercalate (place ++ names) := by
  by_cases hplace' : place = []
  · subst hplace'
    rw [join, not_isAbsolute_intercalate h]
    rfl
  · obtain ⟨before, name, hconcat, hname⟩ := exists_concat hplace hplace'
    have hsegments : segments ("/" ++ "/".intercalate place) = ("" :: before) ++ [name] := by
      rw [List.cons_append, ← hconcat]
      exact segments_absolute hplace' fun n hn => (hplace n hn).unslashed
    rw [join_names hname hsegments (not_isAbsolute_intercalate h),
      String.intercalate_append_of_ne_nil hplace' hne]
    simp only [String.append_assoc]

end Join

theorem IsNormal.join {base path : String} (hbase : IsNormal base) (hpath : IsNormal path) :
    IsNormal (join base path) := by
  cases hpath with
  | @absolute names h =>
    rw [join_of_absolute (isAbsolute_absolute _)]
    exact .absolute h
  | @relative names h hne =>
    have hall {place : List String} (hplace : ∀ n ∈ place, IsName n) :
        ∀ n ∈ place ++ names, IsName n :=
      fun n hn => (List.mem_append.1 hn).elim (hplace n) (h n)
    cases hbase with
    | @absolute place hplace =>
      rw [join_absolute hplace h hne]
      exact .absolute (hall hplace)
    | @relative place hplace hplace' =>
      rw [join_relative hplace hplace' h hne]
      exact .relative (hall hplace) (by simp [hne])

end CodeSurvey.Path

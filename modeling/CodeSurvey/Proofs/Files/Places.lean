import CodeSurvey.Files.System
import CodeSurvey.Proofs.Files.NormalPaths

/-!
# Where paths lead

Two paths with the same parts lead to the same place, however they are spelled, as long as neither
is too long for the system. The path of a place, written from the root, leads to that place unless
it cannot be followed at all.
-/

namespace CodeSurvey
open CodeSurvey.Path

/-! ## Places within places -/

theorem FileNode.find?_append (node : FileNode) (place rest : Place) :
    node.find? (place ++ rest) = (node.find? place).bind fun inner => inner.find? rest := by
  induction place generalizing node with
  | nil => cases node <;> simp [FileNode.find?]
  | cons name place ih =>
    cases node with
    | file bytes => rfl
    | link target => rfl
    | directory entries =>
      rw [List.cons_append, FileNode.find?, FileNode.find?]
      cases entries.lookup name with
      | none => rfl
      | some inner => exact ih inner

theorem FileNode.find?_directory_cons (entries : List (String × FileNode)) (name : String)
    (rest : Place) : (FileNode.directory entries).find? (name :: rest) =
      (entries.lookup name).bind fun inner => inner.find? rest := by
  rw [FileNode.find?]
  cases entries.lookup name <;> rfl

theorem FileNode.exists_directory {node found : FileNode} {name : String} {rest : Place}
    (h : node.find? (name :: rest) = some found) :
    ∃ entries inner, node = .directory entries ∧ entries.lookup name = some inner ∧
      inner.find? rest = some found := by
  cases node with
  | file bytes => cases h
  | link target => cases h
  | directory entries =>
    rw [find?_directory_cons, Option.bind_eq_some_iff] at h
    obtain ⟨inner, hinner, hfound⟩ := h
    exact ⟨entries, inner, rfl, hinner, hfound⟩

namespace FileSystem

/-! ## Steps -/

section Steps
variable {root : FileNode} {place : Place} {entries : List (String × FileNode)}
  {rest : List PathStep} {links : Nat}

theorem follow_nil : follow root links place [] = .ok place := by
  rw [follow]

theorem follow_top (h : root.find? place = some (.directory entries)) :
    follow root links place (.top :: rest) = follow root links [] rest := by
  rw [follow.eq_def, h]

theorem follow_stay (h : root.find? place = some (.directory entries)) :
    follow root links place (.stay :: rest) = follow root links place rest := by
  rw [follow.eq_def, h]

theorem follow_up (h : root.find? place = some (.directory entries)) :
    follow root links place (.up :: rest) = follow root links place.dropLast rest := by
  rw [follow.eq_def, h]

theorem follow_enter_long {name : String} (h : root.find? place = some (.directory entries))
    (hlong : name.utf8ByteSize > maxNameBytes) :
    follow root links place (.enter name :: rest) = .error .nameTooLong := by
  rw [follow.eq_def, h]
  exact if_pos hlong

theorem follow_enter {name : String} (h : root.find? place = some (.directory entries))
    (hshort : ¬ name.utf8ByteSize > maxNameBytes) :
    follow root links place (.enter name :: rest) =
      match entries.lookup name with
      | some (.link target) =>
        match links with
        | 0 => .error .tooManyLinks
        | links + 1 => follow root links place (PathStep.ofPath target ++ rest)
      | some _ => follow root links (place ++ [name]) rest
      | none => if rest.isEmpty then .ok (place ++ [name]) else .error .missing := by
  rw [follow.eq_def, h]
  exact if_neg hshort

theorem follow_nowhere {step : PathStep}
    (h : ∀ entries, root.find? place ≠ some (.directory entries)) :
    follow root links place (step :: rest) = .error .notDirectory := by
  rw [follow.eq_def]
  cases hfind : root.find? place with
  | none => rfl
  | some node =>
    cases node with
    | directory entries => exact absurd hfind (h entries)
    | file bytes => rfl
    | link target => rfl

end Steps

def isMove (step : PathStep) : Bool := step != .stay

/-- Staying somewhere asks for a directory, and so does whatever step comes next. -/
theorem follow_moves (root : FileNode) (links : Nat) (place : Place) (steps : List PathStep)
    (name : String) :
    follow root links place (steps ++ [.enter name]) =
      follow root links place (steps.filter isMove ++ [.enter name]) := by
  induction links using Nat.strongRecOn generalizing place steps with
  | ind links ihLinks =>
    induction steps generalizing place with
    | nil => rfl
    | cons step steps ih =>
      by_cases hdir : ∃ entries, root.find? place = some (.directory entries)
      · obtain ⟨entries, hentries⟩ := hdir
        cases step with
        | stay =>
          rw [List.cons_append, follow_stay hentries]
          exact ih place
        | top =>
          have hfilter : (PathStep.top :: steps).filter isMove = .top :: steps.filter isMove := rfl
          rw [hfilter, List.cons_append, List.cons_append, follow_top hentries,
            follow_top hentries]
          exact ih []
        | up =>
          have hfilter : (PathStep.up :: steps).filter isMove = .up :: steps.filter isMove := rfl
          rw [hfilter, List.cons_append, List.cons_append, follow_up hentries, follow_up hentries]
          exact ih place.dropLast
        | enter n =>
          have hfilter : (PathStep.enter n :: steps).filter isMove =
              .enter n :: steps.filter isMove := rfl
          rw [hfilter, List.cons_append, List.cons_append]
          by_cases hlong : n.utf8ByteSize > maxNameBytes
          · rw [follow_enter_long hentries hlong, follow_enter_long hentries hlong]
          · rw [follow_enter hentries hlong, follow_enter hentries hlong]
            cases entries.lookup n with
            | none => simp
            | some inner =>
              cases inner with
              | file bytes => exact ih (place ++ [n])
              | directory inside => exact ih (place ++ [n])
              | link target =>
                cases links with
                | zero => rfl
                | succ links =>
                  -- The steps of the target come first, then those that were left.
                  have hleft := ihLinks links (Nat.lt_succ_self links) place
                    (PathStep.ofPath target ++ steps)
                  have hright := ihLinks links (Nat.lt_succ_self links) place
                    (PathStep.ofPath target ++ steps.filter isMove)
                  rw [List.filter_append, List.append_assoc] at hleft hright
                  simp only [List.filter_filter, Bool.and_self] at hright
                  exact hleft.trans hright.symm
      · have hnowhere : ∀ entries, root.find? place ≠ some (.directory entries) :=
          fun entries h => hdir ⟨entries, h⟩
        have hleft : follow root links place (step :: steps ++ [.enter name]) =
            .error .notDirectory := follow_nowhere hnowhere
        rw [hleft]
        cases hmoves : (step :: steps).filter isMove ++ [.enter name] with
        | nil => simp at hmoves
        | cons next later => rw [follow_nowhere hnowhere]

/-! ## Steps and parts -/

/-- The move that a part stands for; `here` stands for none. -/
def moveOf? : Part → Option PathStep
  | .root => some .top
  | .here => none
  | .up => some .up
  | .name text => some (.enter text)

theorem segment_cases (s : String) : s = "" ∨ s = "." ∨ s = ".." ∨
    PathStep.ofSegment s = .enter s ∧ innerPart? s = some (.name s) ∧
      firstPart? false s = some (.name s) := by
  by_cases hempty : s = ""
  · exact .inl hempty
  by_cases hhere : s = "."
  · exact .inr (.inl hhere)
  by_cases hup : s = ".."
  · exact .inr (.inr (.inl hup))
  refine .inr (.inr (.inr ⟨?_, innerPart?_eq_name hempty hhere hup, ?_⟩))
  · rw [PathStep.ofSegment] <;> assumption
  · rw [firstPart?] <;> assumption

theorem moves_ofSegment (s : String) :
    [PathStep.ofSegment s].filter isMove = ((innerPart? s).bind moveOf?).toList := by
  rcases segment_cases s with rfl | rfl | rfl | ⟨hstep, hinner, -⟩
  · rfl
  · rfl
  · rfl
  · rw [hstep, hinner]
    rfl

theorem moves_ofSegments (ss : List String) :
    (PathStep.ofSegments ss).filter isMove =
      ((inners ss).filterMap Prod.snd).filterMap moveOf? := by
  induction ss with
  | nil => rfl
  | cons s ss ih =>
    have hhead : (inners (s :: ss)).filterMap Prod.snd =
        (innerPart? s).toList ++ (inners ss).filterMap Prod.snd := by
      rw [inners, List.map_cons, List.filterMap_cons]
      cases innerPart? s <;> rfl
    have hmove : (innerPart? s).toList.filterMap moveOf? =
        [PathStep.ofSegment s].filter isMove := by
      rw [moves_ofSegment]
      cases innerPart? s with
      | none => rfl
      | some p => cases hp : moveOf? p <;> simp [hp]
    rw [hhead, List.filterMap_append, ← ih, hmove]
    cases ss with
    | nil => simp [PathStep.ofSegments]
    | cons t ts =>
      by_cases hs : s = ""
      · subst hs
        rfl
      · rw [PathStep.ofSegments, ← List.filter_append, List.singleton_append] <;> simp [hs]

theorem ofSegments_cons {s : String} (hs : s ≠ "") (ss : List String) :
    PathStep.ofSegments (s :: ss) = PathStep.ofSegment s :: PathStep.ofSegments ss := by
  cases ss with
  | nil => rfl
  | cons t ts => rw [PathStep.ofSegments] <;> simp [hs]

theorem ofPath_root {path : String} {ss : List String} (h : segments path = "" :: ss) :
    PathStep.ofPath path = .top :: PathStep.ofSegments ss := by
  rw [PathStep.ofPath, h]
  rfl

theorem ofPath_relative {path s : String} {ss : List String} (h : segments path = s :: ss)
    (hs : s ≠ "") : PathStep.ofPath path = PathStep.ofSegment s :: PathStep.ofSegments ss := by
  rw [PathStep.ofPath, h, ← ofSegments_cons hs]
  split
  next heq => exact absurd (List.cons.inj heq).1 hs
  next => rfl

theorem moves_ofPath {path : String} (hpath : path ≠ "") :
    (PathStep.ofPath path).filter isMove = (parts path).filterMap moveOf? := by
  obtain ⟨s, ss, hsegments⟩ := List.exists_cons_of_ne_nil (segments_ne_nil path)
  obtain ⟨p, hp, hparts⟩ := parts_of_ne_empty hpath hsegments
  have hfirst (step : PathStep) (hstep : [step].filter isMove = [p].filterMap moveOf?) :
      (step :: PathStep.ofSegments ss).filter isMove = (parts path).filterMap moveOf? := by
    rw [hparts, ← List.singleton_append, List.filter_append, hstep, moves_ofSegments,
      ← List.filterMap_append]
    rfl
  rcases segment_cases s with rfl | rfl | rfl | ⟨hstep, -, hname⟩
  · rw [ofPath_root hsegments]
    cases hp
    exact hfirst .top rfl
  · rw [ofPath_relative hsegments (by decide)]
    cases hp
    exact hfirst .stay rfl
  · rw [ofPath_relative hsegments (by decide)]
    cases hp
    exact hfirst .up rfl
  · have hs : s ≠ "" := by
      rintro rfl
      cases hname
    rw [ofPath_relative hsegments hs, hstep]
    refine hfirst (.enter s) ?_
    rw [← Option.some.inj (hname.symm.trans hp)]
    rfl

theorem ofSegment_name {name : String} (h : IsName name) :
    PathStep.ofSegment name = .enter name := by
  rcases segment_cases name with hn | hn | hn | hn
  · exact absurd hn h.ne_empty
  · exact absurd hn h.ne_here
  · exact absurd hn h.ne_up
  · exact hn.1

theorem ofSegments_concat {name : String} (h : IsName name) (ss : List String) :
    ∃ steps, PathStep.ofSegments (ss ++ [name]) = steps ++ [.enter name] := by
  induction ss with
  | nil => exact ⟨[], congrArg (fun step => [step]) (ofSegment_name h)⟩
  | cons s ss ih =>
    obtain ⟨steps, hsteps⟩ := ih
    by_cases hs : s = ""
    · subst hs
      refine ⟨steps, ?_⟩
      rw [← hsteps]
      cases ss <;> rfl
    · refine ⟨PathStep.ofSegment s :: steps, ?_⟩
      rw [List.cons_append, ofSegments_cons hs, hsteps, List.cons_append]

theorem ne_empty_of_concat {path name : String} {ss : List String} (hname : IsName name)
    (h : segments path = ss ++ [name]) : path ≠ "" := by
  rintro rfl
  have hlast : (segments "").getLast? = some name := by rw [h, List.getLast?_concat]
  exact hname.ne_empty (Option.some.inj hlast).symm

theorem ofPath_concat {path name : String} {ss : List String} (hname : IsName name)
    (h : segments path = ss ++ [name]) :
    ∃ steps, PathStep.ofPath path = steps ++ [.enter name] := by
  cases ss with
  | nil =>
    refine ⟨[], ?_⟩
    rw [ofPath_relative h hname.ne_empty, ofSegment_name hname]
    rfl
  | cons s ss =>
    obtain ⟨steps, hsteps⟩ := ofSegments_concat hname ss
    rw [List.cons_append] at h
    by_cases hs : s = ""
    · subst hs
      refine ⟨.top :: steps, ?_⟩
      rw [ofPath_root h, hsteps, List.cons_append]
    · refine ⟨PathStep.ofSegment s :: steps, ?_⟩
      rw [ofPath_relative h hs, hsteps, List.cons_append]

/-- A path that ends in a name leads where the moves of its parts lead. -/
theorem follow_of_parts {root : FileNode} {links : Nat} {place : Place} {path name : String}
    {ss : List String} (hname : IsName name) (h : segments path = ss ++ [name]) :
    follow root links place (PathStep.ofPath path) =
      follow root links place ((parts path).filterMap moveOf?) := by
  obtain ⟨steps, hsteps⟩ := ofPath_concat hname h
  have hmoves := moves_ofPath (ne_empty_of_concat hname h)
  have hlast : [PathStep.enter name].filter isMove = [.enter name] := rfl
  rw [hsteps, List.filter_append, hlast] at hmoves
  rw [hsteps, follow_moves, hmoves]

/-! ## The characters of a path -/

theorem text_of_firstPart? {alone : Bool} {s : String} {p : Part}
    (h : firstPart? alone s = some p) : p.text = s := by
  rw [firstPart?.eq_def] at h
  split at h
  · split at h <;> cases h
    rfl
  all_goals
    cases h
    rfl

theorem text_of_innerPart? {s : String} {p : Part} (h : innerPart? s = some p) : p.text = s := by
  rw [innerPart?.eq_def] at h
  split at h <;> cases h <;> rfl

theorem mem_intercalate {c : Char} (hc : c ≠ '/') (pieces : List (List Char)) :
    c ∈ ['/'].intercalate pieces ↔ ∃ piece ∈ pieces, c ∈ piece := by
  induction pieces with
  | nil => simp
  | cons piece pieces ih =>
    cases pieces with
    | nil => simp
    | cons next later =>
      rw [List.intercalate_cons_cons, List.mem_append, ih]
      simp [hc]

theorem text_of_mem_labelled {ss : List String} {s : String} {p : Part}
    (h : (s, some p) ∈ labelled ss) : p.text = s := by
  cases ss with
  | nil => cases h
  | cons first ss =>
    rw [labelled_cons, List.mem_cons] at h
    rcases h with h | h
    · obtain ⟨rfl, hp⟩ := Prod.mk.inj h
      exact text_of_firstPart? hp.symm
    · obtain ⟨t, -, ht⟩ := List.mem_map.1 h
      obtain ⟨rfl, hp⟩ := Prod.mk.inj ht
      exact text_of_innerPart? hp

theorem text_of_mem_labelled_none {ss : List String} {s : String}
    (h : (s, none) ∈ labelled ss) : s = "" ∨ s = "." := by
  cases ss with
  | nil => cases h
  | cons first ss =>
    rw [labelled_cons, List.mem_cons] at h
    rcases h with h | h
    · obtain ⟨rfl, hp⟩ := Prod.mk.inj h
      by_cases hs : s = ""
      · exact .inl hs
      · obtain ⟨p, hp'⟩ := firstPart?_false s
        rw [firstPart?_of_ne_empty hs, hp'] at hp
        cases hp
    · obtain ⟨t, -, ht⟩ := List.mem_map.1 h
      obtain ⟨rfl, hp⟩ := Prod.mk.inj ht
      rcases segment_cases t with ht | ht | rfl | ⟨-, ht, -⟩
      · exact .inl ht
      · exact .inr ht
      · cases hp
      · rw [ht] at hp
        cases hp

theorem map_fst_labelled (ss : List String) : (labelled ss).map Prod.fst = ss := by
  cases ss with
  | nil => rfl
  | cons s ss => rw [labelled_cons, List.map_cons, map_fst_inners]

theorem mem_toList_iff {c : Char} (hslash : c ≠ '/') (hdot : c ≠ '.') (path : String) :
    c ∈ path.toList ↔ ∃ p ∈ parts path, c ∈ p.text.toList := by
  have hpieces : path.toList = ['/'].intercalate ((segments path).map String.toList) := by
    have hspelled := congrArg String.toList (intercalate_segments path)
    rw [String.toList_intercalate] at hspelled
    exact hspelled.symm
  rw [hpieces, mem_intercalate hslash]
  constructor
  · rintro ⟨piece, hpiece, hc⟩
    obtain ⟨s, hs, rfl⟩ := List.mem_map.1 hpiece
    rw [← map_fst_labelled (segments path)] at hs
    obtain ⟨⟨s, label⟩, hlabel, rfl⟩ := List.mem_map.1 hs
    cases label with
    | none => rcases text_of_mem_labelled_none hlabel with rfl | rfl <;> simp_all
    | some p =>
      refine ⟨p, List.mem_filterMap.2 ⟨_, hlabel, rfl⟩, ?_⟩
      rw [text_of_mem_labelled hlabel]
      exact hc
  · rintro ⟨p, hp, hc⟩
    obtain ⟨⟨s, label⟩, hlabel, rfl⟩ := List.mem_filterMap.1 hp
    refine ⟨s.toList, List.mem_map_of_mem ?_, text_of_mem_labelled hlabel ▸ hc⟩
    rw [← map_fst_labelled (segments path)]
    exact List.mem_map_of_mem hlabel

/-! ## Spellings of one path -/

theorem locate_congr (fs : FileSystem) {a b m n : String} {ss ts : List String}
    (hm : IsName m) (hn : IsName n) (ha : segments a = ss ++ [m]) (hb : segments b = ts ++ [n])
    (hparts : parts a = parts b) (hashort : a.utf8ByteSize ≤ maxPathBytes)
    (hbshort : b.utf8ByteSize ≤ maxPathBytes) : fs.locate a = fs.locate b := by
  have hnul : a.toList.contains '\x00' = b.toList.contains '\x00' := by
    rw [Bool.eq_iff_iff, List.contains_iff_mem, List.contains_iff_mem,
      mem_toList_iff (by decide) (by decide), hparts,
      mem_toList_iff (by decide) (by decide)]
  have hempty {path : String} (h : path ≠ "") : path.isEmpty = false := by simpa using h
  rw [locate, locate, steps, steps, hnul, hempty (ne_empty_of_concat hm ha),
    hempty (ne_empty_of_concat hn hb), if_neg (Nat.not_lt.2 hashort),
    if_neg (Nat.not_lt.2 hbshort)]
  split
  · rfl
  · have hfollow : follow fs.root maxLinks fs.workingDirectory (PathStep.ofPath a) =
        follow fs.root maxLinks fs.workingDirectory (PathStep.ofPath b) := by
      rw [follow_of_parts hm ha, follow_of_parts hn hb, hparts]
    exact hfollow

theorem isAbsolute_of_parts {path : String} {ps : List Part} (h : parts path = .root :: ps) :
    isAbsolute path = true := by
  have hpath : path ≠ "" := by
    rintro rfl
    have hnone : parts "" = [] := by decide
    rw [hnone] at h
    cases h
  obtain ⟨s, ss, hsegments⟩ := List.exists_cons_of_ne_nil (segments_ne_nil path)
  obtain ⟨p, hp, hparts⟩ := parts_of_ne_empty hpath hsegments
  obtain rfl : p = .root := (List.cons.inj (hparts.symm.trans h)).1
  obtain rfl : "" = s := text_of_firstPart? hp
  have hss : ss ≠ [] := by
    rintro rfl
    exact ne_empty_of_segments hpath hsegments rfl
  rw [← intercalate_segments path, hsegments, intercalate_empty_cons hss]
  exact isAbsolute_absolute _

theorem parts_of_mixed {base : String} {names place : List String} (hnames : ∀ n ∈ names, IsName n)
    (hne : names ≠ []) (hplace : ∀ n ∈ place, IsName n)
    (h : parts (join base ("/".intercalate names)) = parts ("/" ++ "/".intercalate place)) :
    isAbsolute base = true ∧ place ≠ [] := by
  rw [parts_join hnames, parts_absolute hplace] at h
  have hplace' : place ≠ [] := by
    rintro rfl
    obtain ⟨before, name, rfl, -⟩ := exists_concat hnames hne
    have hlast := congrArg List.getLast? h
    simp at hlast
  refine ⟨?_, hplace'⟩
  cases hbase : parts base with
  | nil =>
    rw [hbase, List.nil_append] at h
    obtain ⟨n, names, rfl⟩ := List.exists_cons_of_ne_nil hne
    cases (List.cons.inj h).1
  | cons p ps =>
    rw [hbase] at h
    obtain rfl : p = .root := (List.cons.inj h).1
    exact isAbsolute_of_parts hbase

theorem locate_mixed (fs : FileSystem) {base : String} {names place : List String}
    (hnames : ∀ n ∈ names, IsName n) (hne : names ≠ []) (hplace : ∀ n ∈ place, IsName n)
    (h : parts (join base ("/".intercalate names)) = parts ("/" ++ "/".intercalate place))
    (hshort : (join base ("/".intercalate names)).utf8ByteSize ≤ maxPathBytes)
    (hshort' : ("/" ++ "/".intercalate place).utf8ByteSize ≤ maxPathBytes) :
    fs.locate (join base ("/".intercalate names)) = fs.locate ("/" ++ "/".intercalate place) := by
  obtain ⟨habsolute, hplace'⟩ := parts_of_mixed hnames hne hplace h
  have hbase : base ≠ "" := by
    rintro rfl
    exact absurd habsolute (by decide)
  obtain ⟨s, ss, hsegments, -⟩ := segments_join hbase (not_isAbsolute_intercalate hnames)
  rw [segments_intercalate hne fun n hn => (hnames n hn).unslashed] at hsegments
  have hsegments' : segments ("/" ++ "/".intercalate place) = "" :: place :=
    segments_absolute hplace' fun n hn => (hplace n hn).unslashed
  obtain ⟨before, m, rfl, hm⟩ := exists_concat hnames hne
  obtain ⟨before', n, rfl, hn⟩ := exists_concat hplace hplace'
  rw [← List.append_assoc] at hsegments
  rw [← List.cons_append] at hsegments'
  exact locate_congr fs hm hn hsegments hsegments' h hshort hshort'

/-- Normal paths with the same parts within a base lead to one place. Their spellings can differ
only if one of them starts at the root and the other does not. -/
theorem locate_join_congr (fs : FileSystem) {base p q : String} (hp : IsNormal p) (hq : IsNormal q)
    (hparts : parts (join base p) = parts (join base q))
    (hbase : IsNormal base ∨ isAbsolute base = false ∨
      (join base p).utf8ByteSize ≤ maxPathBytes ∧ (join base q).utf8ByteSize ≤ maxPathBytes) :
    fs.locate (join base p) = fs.locate (join base q) := by
  rcases hbase with hbase | hbase
  · rw [IsNormal.eq_of_parts (hbase.join hp) (hbase.join hq) hparts]
  cases hp with
  | @absolute place hplace =>
    have hp' : join base ("/" ++ "/".intercalate place) = "/" ++ "/".intercalate place :=
      join_of_absolute (isAbsolute_absolute _)
    rw [hp'] at hparts hbase ⊢
    cases hq with
    | @absolute place' hplace' =>
      rw [join_of_absolute (isAbsolute_absolute _)] at hparts ⊢
      rw [IsNormal.eq_of_parts (.absolute hplace) (.absolute hplace') hparts]
    | @relative names hnames hne =>
      obtain ⟨habsolute, -⟩ := parts_of_mixed hnames hne hplace hparts.symm
      rcases hbase with hbase | ⟨hshort, hshort'⟩
      · rw [habsolute] at hbase
        cases hbase
      · exact (locate_mixed fs hnames hne hplace hparts.symm hshort' hshort).symm
  | @relative names hnames hne =>
    cases hq with
    | @absolute place hplace =>
      rw [join_of_absolute (isAbsolute_absolute _)] at hparts hbase ⊢
      obtain ⟨habsolute, -⟩ := parts_of_mixed hnames hne hplace hparts
      rcases hbase with hbase | ⟨hshort, hshort'⟩
      · rw [habsolute] at hbase
        cases hbase
      · exact locate_mixed fs hnames hne hplace hparts hshort hshort'
    | @relative names' hnames' hne' =>
      rw [parts_join hnames, parts_join hnames', List.append_cancel_left_eq] at hparts
      have hsame := congrArg (List.map Part.text) hparts
      rw [texts_of_names, texts_of_names] at hsame
      rw [hsame]

end FileSystem
end CodeSurvey

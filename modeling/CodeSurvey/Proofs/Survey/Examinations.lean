import CodeSurvey.Proofs.Data.Results
import CodeSurvey.Proofs.Files.Places
import CodeSurvey.Survey.Analyzer

/-!
# Examined files

What is found out about a file depends on where its path leads and on what it is called within the
base. Normal paths with the same parts agree in both, and what a file is called leads back to it.
-/

namespace CodeSurvey
open CodeSurvey.Path

theorem fromUTF8?_eq_some {bytes : ByteArray} {text : String} :
    String.fromUTF8? bytes = some text ↔ bytes = text.toUTF8 := by
  rw [String.fromUTF8?, String.toUTF8_eq_toByteArray]
  constructor
  · intro h
    split at h
    · cases h
      rfl
    · cases h
  · rintro rfl
    rw [dif_pos text.isValidUTF8]
    rfl

theorem toOption_eq_some {ε α : Type} {result : Except ε α} {value : α} :
    result.toOption = some value ↔ result = .ok value := by
  cases result <;> simp [Except.toOption]

theorem FileSystem.readText_eq_ok {fs : FileSystem} {path text : String} :
    fs.readText path = .ok text ↔ ∃ place, fs.visit path = .ok (place, .file text.toUTF8) := by
  rw [readText]
  constructor
  · intro h
    obtain ⟨⟨place, node⟩, hvisit, hnode⟩ := exists_of_bind h
    cases node with
    | link target => cases hnode
    | directory entries => cases hnode
    | file bytes =>
      refine ⟨place, ?_⟩
      cases hbytes : String.fromUTF8? bytes with
      | none => simp [hbytes] at hnode
      | some found =>
        obtain rfl : found = text := by simpa [hbytes] using hnode
        rw [hvisit, fromUTF8?_eq_some.1 hbytes]
  · rintro ⟨place, hvisit⟩
    have hbytes : String.fromUTF8? text.toUTF8 = some text := fromUTF8?_eq_some.2 rfl
    simp [hvisit, hbytes, bind, Except.bind, -String.toUTF8_eq_toByteArray]

theorem FileSystem.size_congr {fs : FileSystem} {a b : String} (h : fs.visit a = fs.visit b) :
    fs.size a = fs.size b := by
  rw [size, size, h]

theorem FileSystem.readText_congr {fs : FileSystem} {a b : String} (h : fs.visit a = fs.visit b) :
    fs.readText a = fs.readText b := by
  rw [readText, readText, h]

namespace Analyzer
variable {a : Analyzer} {fs : FileSystem} {p q : String} {x y : FileAnalysis}

def SamePath (a : Analyzer) (p q : String) : Prop := parts (a.resolve p) = parts (a.resolve q)

/-- What a file is called in its analysis. -/
def called (a : Analyzer) (path : String) : String := within a.base (a.resolve path)

theorem key_eq_key : a.key p = a.key q ↔ a.SamePath p q :=
  ⟨ofParts_parts_inj, congrArg ofParts⟩

theorem examine_eq_ok : a.examine fs p = .ok x ↔
    ∃ text, fs.readText (a.resolve p) = .ok text ∧ text.utf8ByteSize ≤ a.maxFileBytes.toNat ∧
      x = CodeSurvey.analyze text (a.called p) a.options := by
  have hsize {text : String} (h : fs.readText (a.resolve p) = .ok text) :
      fs.size (a.resolve p) = .ok text.utf8ByteSize := by
    obtain ⟨place, hvisit⟩ := FileSystem.readText_eq_ok.1 h
    rw [FileSystem.size, hvisit]
    rfl
  rw [examine]
  constructor
  · intro h
    obtain ⟨bytes, hbytes, hrest⟩ := exists_of_bind h
    split at hrest
    · cases hrest
    next hsmall =>
      obtain ⟨text, htext, hresult⟩ := exists_of_bind hrest
      have hread := eq_ok_of_mapError htext
      have hsame := (eq_ok_of_mapError hbytes).symm.trans (hsize hread)
      cases hsame
      exact ⟨text, hread, Nat.le_of_not_lt hsmall, (Except.ok.inj hresult).symm⟩
  · rintro ⟨text, hread, hsmall, rfl⟩
    rw [hsize hread, hread]
    simp only [Except.mapError, bind, Except.bind]
    rw [if_neg (Nat.not_lt.2 hsmall)]
    rfl

/-- What a file may be called: the way to it from the base, or its path if it is elsewhere. -/
inductive Names (base path : String) : String → Prop
  | within {names : List String} (hnames : ∀ n ∈ names, IsName n)
    (hparts : parts (join base path) = parts base ++ names.map .name) :
    Names base path ("/".intercalate names)
  | outside (habsolute : isAbsolute path = true) (hout : base = "" ∨ ¬ parts base <+: parts path) :
    Names base path path

theorem names_called (hp : IsNormal p) : Names a.base p (a.called p) := by
  rw [called, resolve]
  rcases within_cases hp a.base with ⟨names, hnames, hparts, hcalled⟩ | ⟨habsolute, hout, hcalled⟩
  · rw [hcalled]
    exact .within hnames hparts
  · rw [hcalled]
    exact .outside habsolute hout

theorem parts_ne_of_outside {base : String} {names : List String} (hq : IsNormal q)
    (habsolute : isAbsolute q = true) (hout : base = "" ∨ ¬ parts base <+: parts q) :
    parts base ++ names.map .name ≠ parts (join base q) := by
  intro h
  rw [join_of_absolute habsolute] at h
  rcases hout with rfl | hout
  · cases hq with
    | relative hnames hne =>
      rw [not_isAbsolute_intercalate hnames] at habsolute
      cases habsolute
    | absolute hnames =>
      have hnone : parts "" = [] := by decide
      rw [parts_absolute hnames, hnone] at h
      cases names <;> cases h
  · exact hout ⟨_, h⟩

theorem called_congr (hp : IsNormal p) (hq : IsNormal q) (h : a.SamePath p q) :
    a.called p = a.called q := by
  rcases within_cases hp a.base with ⟨ms, hms, hpparts, hpcalled⟩ | ⟨hpabsolute, hpout, hpcalled⟩
  · rcases within_cases hq a.base with ⟨ns, hns, hqparts, hqcalled⟩ | ⟨hqabsolute, hqout, -⟩
    · have hnames : ms.map Part.name = ns.map Part.name := by
        have hboth := h
        rw [SamePath, resolve, resolve, hpparts, hqparts] at hboth
        exact List.append_cancel_left hboth
      have hsame : ms = ns := by
        rw [← texts_of_names ms, hnames, texts_of_names]
      rw [called, called, resolve, resolve, hpcalled, hqcalled, hsame]
    · exact absurd (hpparts.symm.trans h) (parts_ne_of_outside hq hqabsolute hqout)
  · rcases within_cases hq a.base with ⟨ns, hns, hqparts, -⟩ | ⟨hqabsolute, -, hqcalled⟩
    · exact absurd (hqparts.symm.trans h.symm) (parts_ne_of_outside hp hpabsolute hpout)
    · have hsame := h
      rw [SamePath, resolve, resolve, join_of_absolute hpabsolute,
        join_of_absolute hqabsolute] at hsame
      rw [called, called, resolve, resolve, hpcalled, hqcalled, hp.eq_of_parts hq hsame]

theorem examine_congr (hp : IsNormal p) (hq : IsNormal q) (h : a.SamePath p q)
    (hlocate : fs.locate (a.resolve p) = fs.locate (a.resolve q)) :
    a.examine fs p = a.examine fs q := by
  have hvisit : fs.visit (a.resolve p) = fs.visit (a.resolve q) := by
    rw [FileSystem.visit, FileSystem.visit, hlocate]
  have hcalled : within a.base (a.resolve p) = within a.base (a.resolve q) := called_congr hp hq h
  rw [examine, examine, hcalled, FileSystem.size_congr hvisit, FileSystem.readText_congr hvisit]

theorem short_of_readText {path text : String} (h : fs.readText path = .ok text) :
    path.utf8ByteSize ≤ FileSystem.maxPathBytes := by
  obtain ⟨place, hvisit⟩ := FileSystem.readText_eq_ok.1 h
  obtain ⟨found, hlocate, -⟩ := exists_of_bind hvisit
  obtain ⟨steps, hsteps, -⟩ := exists_of_bind hlocate
  by_contra hlong
  rw [FileSystem.steps, if_pos (Nat.lt_of_not_le hlong)] at hsteps
  split at hsteps
  · cases hsteps
  · split at hsteps <;> cases hsteps

/-- Where a file is found by two paths with the same parts, the same is found out about it. -/
theorem examine_agree (hp : IsNormal p) (hq : IsNormal q) (h : a.SamePath p q)
    (hx : a.examine fs p = .ok x) (hy : a.examine fs q = .ok y) : x = y := by
  obtain ⟨_, hread, -⟩ := examine_eq_ok.1 hx
  obtain ⟨_, hread', -⟩ := examine_eq_ok.1 hy
  have hshort := And.intro (short_of_readText hread) (short_of_readText hread')
  have hlocate := fs.locate_join_congr hp hq h (.inr (.inr hshort))
  have hsame : a.examine fs p = a.examine fs q := examine_congr hp hq h hlocate
  rw [hx, hy] at hsame
  exact Except.ok.inj hsame

theorem analyze_of_error {e : AnalyzeError} (h : (a.analyze fs p).1 = .error e) :
    (a.analyze fs p).2 = a := by
  rw [analyze] at h ⊢
  cases hknown : a.known? p with
  | some x => rfl
  | none =>
    cases hresult : a.examine fs p with
    | error e => rfl
    | ok x => simp [hknown, hresult] at h

end Analyzer
end CodeSurvey

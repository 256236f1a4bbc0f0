import CodeSurvey.Proofs.Text.Lines
import CodeSurvey.Proofs.Text.Matching
import CodeSurvey.Script.Erasure

/-!
# Lines of erased texts

Erasing type annotations only leaves characters out, and no line ends, so the plain script has as
many lines as the typed one, and each line is what is left of the line at its place.
-/

namespace CodeSurvey.Script.Erasure
open Text Text.Pattern

/-- A removal takes away a whole match, or of two parts the first. -/
inductive Removal : Pattern → Prop where
  | whole {p : Pattern} : p.isPlain → Removal p
  | first {body tail : Pattern} : body.isPlain → tail.isPlain → Removal (before body tail)

theorem removal_of_mem {p : Pattern} (h : p ∈ removals) : Removal p := by
  simp only [removals, List.mem_cons, List.not_mem_nil, or_false] at h
  rcases h with rfl | rfl | rfl | rfl | rfl | rfl | rfl | rfl
  · exact .first rfl rfl
  · exact .first rfl rfl
  · exact .first rfl rfl
  · exact .whole rfl
  · exact .whole rfl
  · exact .whole rfl
  · exact .whole rfl
  · exact .whole rfl

theorem thins_lineEnds (text : List Char) : Thins (lineEnds text) text :=
  ⟨List.filter_sublist, List.count_filter rfl⟩

theorem parts_of_isMatch {body tail : Pattern} (hbody : body.isPlain) (htail : tail.isPlain)
    {m : Match} (h : (before body tail).IsMatch m) :
    ∃ middle : Text.Place, m.whole.start.Reaches middle ∧ middle.Reaches m.whole.stop ∧
      m.group? 1 = some ⟨m.whole.start, middle⟩ ∧ m.group? 2 = some ⟨middle, m.whole.stop⟩ := by
  obtain ⟨t, hfirst, hsecond⟩ := matches_seq.1 h
  obtain ⟨t₁, h₁, rfl⟩ := matches_group.1 hfirst
  obtain ⟨t₂, h₂, heq⟩ := matches_group.1 hsecond
  obtain ⟨hstop, hgroups⟩ := Progress.mk.inj heq
  rw [h₂.groups_eq htail, h₁.groups_eq hbody] at hgroups
  refine ⟨t₁.place, h₁.reaches, hstop ▸ h₂.reaches, ?_, ?_⟩
  · rw [Match.group?, hgroups]
    rfl
  · rw [Match.group?, hgroups, hstop]
    rfl

theorem thins_remainder {p : Pattern} (hp : Removal p) {m : Match} (h : p.IsMatch m) :
    Thins (remainder m) m.whole.chars := by
  cases hp with
  | whole hplain =>
    have hgroups : m.groups = [] := Matches.groups_eq h hplain
    rw [remainder, Match.group?, hgroups]
    exact thins_lineEnds _
  | first hbody htail =>
    obtain ⟨middle, hfirst, hsecond, hone, htwo⟩ := parts_of_isMatch hbody htail h
    rw [remainder, hone, htwo, Stretch.chars_append hfirst hsecond]
    exact .append (thins_lineEnds _) (.refl _)

theorem thins_replaceAll {p : Pattern} (hp : Removal p) (text : List Char) :
    Thins (p.replaceAll remainder text) text :=
  replaceAll_related .refl .append (fun _ h => thins_remainder hp h) text

/-- Each removal goes on from what the ones before it have left. -/
theorem thins_foldl {ps : List Pattern} (hps : ∀ p ∈ ps, Removal p) (text : List Char) :
    Thins (ps.foldl (fun text p => p.replaceAll remainder text) text) text := by
  induction ps generalizing text with
  | nil => exact .refl text
  | cons p ps ih =>
    have hfirst := thins_replaceAll (hps p List.mem_cons_self) text
    have hrest := ih (fun q hq => hps q (List.mem_cons_of_mem p hq)) (p.replaceAll remainder text)
    exact hrest.trans hfirst

end Erasure

theorem thins_eraseTypes (text : String) : Text.Thins (eraseTypes text).toList text.toList := by
  rw [eraseTypes, String.toList_ofList]
  exact Erasure.thins_foldl (fun _ h => Erasure.removal_of_mem h) text.toList

theorem length_lines_eraseTypes (text : String) :
    (Text.lines (eraseTypes text).toList).length = (Text.lines text.toList).length :=
  (thins_eraseTypes text).lines.length_eq

/-- Erasing types is a matter of lines: there are as many as before, and each of them has lost
characters, if anything, but gained none, least of all from another line. -/
theorem eraseTypes_thins_lines (text : String) :
    List.Forall₂ List.Sublist (Text.lines (eraseTypes text).toList) (Text.lines text.toList) :=
  (thins_eraseTypes text).lines

end CodeSurvey.Script

import CodeSurvey.Definitions.Patterns
import CodeSurvey.Proofs.Text.Groups
import CodeSurvey.Proofs.Text.Lines
import CodeSurvey.Proofs.Text.Words

/-!
# Names found by patterns

A definition that is found by a pattern stands under its name in the text, on the line it says, and
its name is made of the characters that the groups of the patterns read. Definitions are found from
the top of the text to its end.
-/

namespace CodeSurvey.Definitions
open Text Text.Pattern

/-! ## What names are made of -/

/-- A name of ASCII or of a script; in one language it may end in a mark that is part of it. -/
structure IsFoundName (name : List Char) : Prop where
  starts : ∃ c rest, name = c :: rest ∧ (isAsciiNameStart c ∨ c = '$')
  parts : ∀ c ∈ name, isWord c ∨ c ∈ ['$', '?', '!']

theorem toNat_lt_of_isAlphanum {c : Char} (h : c.isAlphanum) : c.toNat < 0x80 := by
  have hle {d : Char} (hd : c.val ≤ d.val) (hascii : d.toNat < 0x80) : c.toNat < 0x80 :=
    Nat.lt_of_le_of_lt (UInt32.le_iff_toNat_le.1 hd) hascii
  rcases Bool.or_eq_true_iff.1 h with hletter | hdigit
  · rcases Bool.or_eq_true_iff.1 hletter with hupper | hlower
    · exact hle (of_decide_eq_true hupper).2 (by decide)
    · exact hle (of_decide_eq_true (Bool.and_eq_true_iff.1 hlower).2) (by decide)
  · exact hle (of_decide_eq_true (Bool.and_eq_true_iff.1 hdigit).2) (by decide)

theorem toNat_lt_of_isAsciiNamePart {c : Char} (h : isAsciiNamePart c) : c.toNat < 0x80 := by
  rw [isAsciiNamePart, Bool.or_eq_true] at h
  rcases h with h | h
  · exact toNat_lt_of_isAlphanum h
  · rw [beq_iff_eq.1 h]
    decide

theorem isWord_of_isAsciiNamePart {c : Char} (h : isAsciiNamePart c) : isWord c := by
  rw [isWord, if_pos (toNat_lt_of_isAsciiNamePart h)]
  exact h

theorem isAsciiNamePart_of_start {c : Char} (h : isAsciiNameStart c) : isAsciiNamePart c := by
  rw [isAsciiNameStart, Bool.or_eq_true] at h
  rw [isAsciiNamePart, Char.isAlphanum]
  rcases h with h | h <;> simp [h]

theorem isFoundName_of_asciiName {before chars after : List Char}
    (h : asciiName.Reads before chars after) : IsFoundName chars := by
  obtain ⟨xs, ys, rfl, ⟨c, hc, rfl⟩, hall, -⟩ := h
  refine ⟨⟨c, ys, rfl, .inl hc⟩, fun d hd => .inl (isWord_of_isAsciiNamePart ?_)⟩
  rcases List.mem_cons.1 hd with rfl | hd
  · exact isAsciiNamePart_of_start hc
  · exact List.all_eq_true.1 hall d hd

theorem isFoundName_of_scriptName {before chars after : List Char}
    (h : scriptName.Reads before chars after) : IsFoundName chars := by
  obtain ⟨xs, ys, rfl, ⟨c, hc, rfl⟩, hall, -⟩ := h
  have hstart : isAsciiNameStart c ∨ c = '$' := by simpa using hc
  refine ⟨⟨c, ys, rfl, hstart⟩, fun d hd => ?_⟩
  rcases List.mem_cons.1 hd with rfl | hd
  · rcases hstart with hstart | rfl
    · exact .inl (isWord_of_isAsciiNamePart (isAsciiNamePart_of_start hstart))
    · exact .inr (by decide)
  · have hpart := List.all_eq_true.1 hall d hd
    rw [Bool.or_eq_true, beq_iff_eq] at hpart
    rcases hpart with hpart | rfl
    · exact .inl hpart
    · exact .inr (by decide)

theorem isFoundName_of_markedName {before chars after : List Char}
    (h : (seq asciiName (optional (oneOf "?!"))).Reads before chars after) : IsFoundName chars := by
  obtain ⟨xs, ys, rfl, hname, hmark⟩ := h
  obtain ⟨⟨c, rest, rfl, hc⟩, hparts⟩ := isFoundName_of_asciiName hname
  refine ⟨⟨c, rest ++ ys, rfl, hc⟩, fun d hd => ?_⟩
  rcases List.mem_append.1 hd with hd | hd
  · exact hparts d hd
  · rcases hmark with ⟨e, he, rfl⟩ | rfl
    · obtain rfl := List.mem_singleton.1 hd
      have hmem : d ∈ ['?', '!'] := by simpa using he
      exact .inr (List.mem_cons_of_mem _ hmem)
    · cases hd

/-- What comes after a found name bounds it by itself, unless it goes on as a word. -/
theorem IsFoundName.bounded_iff {name : List Char} (h : IsFoundName name) {s : Setting}
    (hafter : isWordAt s.after.head? = false) :
    Bounded name s ↔ isParted s.before.getLast? name.head? := by
  obtain ⟨⟨c, rest, rfl, hc⟩, hparts⟩ := h
  have hascii : c.toNat < 0x80 := by
    rcases hc with hc | rfl
    · exact toNat_lt_of_isAsciiNamePart (isAsciiNamePart_of_start hc)
    · decide
  have hedge : isNameEdge (some c) = isWordAt (some c) := by
    simp [isNameEdge, isWordAt, isWord, isAlphanumeric, hascii]
  have hlast (hl : isNameEdge (c :: rest).getLast?) : isWordAt (c :: rest).getLast? := by
    rw [List.getLast?_eq_some_getLast (List.cons_ne_nil c rest)] at hl ⊢
    rcases hparts _ (List.getLast_mem (List.cons_ne_nil c rest)) with hword | hmark
    · exact hword
    · have hnone : ['$', '?', '!'].all fun d => !isNameEdge (some d) := by decide +kernel
      have hplain := List.all_eq_true.1 hnone _ hmark
      rw [hl] at hplain
      cases hplain
  rw [List.head?_cons]
  constructor
  · intro hb
    cases hw : isWordAt (some c) with
    | false => exact isParted_of_right hw
    | true => exact (isParted_iff_left hw).2 (hb.starts (hedge.trans hw))
  · intro hp
    refine ⟨fun hs => ?_, fun hl => ?_⟩
    · exact (isParted_iff_left (hedge.symm.trans hs)).1 hp
    · rw [hlast hl, hafter]
      exact Bool.noConfusion

/-- The bodies of the groups that hold the names of definitions. -/
def nameBodies : List Pattern := [asciiName, scriptName, seq asciiName (optional (oneOf "?!"))]

theorem mem_nameBodies {language : Language} {found : DefinitionPattern}
    (h : patternOf? language = some found) : ∀ g ∈ found.pattern.bodies, g.2 ∈ nameBodies := by
  have ascii {g : Nat × Pattern} (hg : g ∈ [(1, asciiName)]) : g.2 ∈ nameBodies := by
    obtain rfl := List.mem_singleton.1 hg
    exact List.mem_cons_self
  have marked {g : Nat × Pattern} (hg : g ∈ [(1, seq asciiName (optional (oneOf "?!")))]) :
      g.2 ∈ nameBodies := by
    obtain rfl := List.mem_singleton.1 hg
    exact List.mem_of_mem_getLast? rfl
  have scripts {g : Nat × Pattern} (hg : g ∈ [(1, scriptName), (2, scriptName)]) :
      g.2 ∈ nameBodies := by
    have hbody : g.2 = scriptName := by
      rcases List.mem_cons.1 hg with rfl | hg
      · rfl
      · rw [List.mem_singleton.1 hg]
    rw [hbody]
    exact List.mem_cons_of_mem _ List.mem_cons_self
  intro g hg
  cases language with
  | other => cases h
  | ruby =>
    cases h
    exact marked hg
  | javaScript | typeScript =>
    cases h
    exact scripts hg
  | python | go | java | rust | php | cFamily =>
    cases h
    exact ascii hg

theorem isFoundName_of_reads {q : Pattern} (hq : q ∈ nameBodies) {before chars after : List Char}
    (h : q.Reads before chars after) : IsFoundName chars := by
  rcases List.mem_cons.1 hq with rfl | hq
  · exact isFoundName_of_asciiName h
  · rcases List.mem_cons.1 hq with rfl | hq
    · exact isFoundName_of_scriptName h
    · obtain rfl := List.mem_singleton.1 hq
      exact isFoundName_of_markedName h

/-! ## Definitions -/

theorem nameOf?_mem {m : Match} {s : Stretch} (h : nameOf? m = some s) :
    ∃ index, m.group? index = some s := by
  rw [nameOf?, Option.or_eq_some_iff] at h
  rcases h with h | ⟨-, h⟩
  · exact ⟨1, h⟩
  · exact ⟨2, h⟩

variable {content file : String} {language : Language}

/-- A definition stands in a text where its name does, and shows some lines from there on. -/
structure FoundIn (content : String) (d : FunctionDef) (before after : List Char) : Prop where
  content_eq : content.toList = before ++ d.name.toList ++ after
  line_eq : d.line = before.count '\n' + 1
  code_eq : d.code = slice (lines content.toList) d.line (d.line + linesAhead)
  name_found : IsFoundName d.name.toList

theorem foundIn_of_definitionOf? {found : DefinitionPattern} (h : patternOf? language = some found)
    {m : Match} (hm : m ∈ found.pattern.findAll content.toList) {d : FunctionDef}
    (hd : definitionOf? content.toList (lines content.toList) file language found.type m = some d) :
    ∃ before after, FoundIn content d before after ∧
      ∃ s, nameOf? m = some s ∧ s.start.offset = before.length := by
  rw [definitionOf?, Option.bind_eq_some_iff] at hd
  obtain ⟨s, hs, hd⟩ := hd
  split at hd
  · cases hd
  · cases hd
    obtain ⟨index, hgroup⟩ := nameOf?_mem hs
    obtain ⟨before, after, q, htext, hoffset, hq, hread⟩ := reads_of_group? hm hgroup
    have hname : s.text.toList = s.chars := String.toList_ofList
    refine ⟨before, after, ⟨?_, ?_, rfl, ?_⟩, s, hs, hoffset⟩
    · rw [hname]
      exact htext
    · dsimp only
      rw [hoffset, htext, List.append_assoc, lineOf_length]
    · rw [hname]
      exact isFoundName_of_reads (mem_nameBodies h _ hq) hread

theorem foundIn_of_mem {d : FunctionDef} (hd : d ∈ functionsByPattern content file language) :
    ∃ before after, FoundIn content d before after := by
  rw [functionsByPattern] at hd
  cases hfound : patternOf? language with
  | none =>
    rw [hfound] at hd
    cases hd
  | some found =>
    rw [hfound] at hd
    obtain ⟨m, hm, hdef⟩ := List.mem_filterMap.1 hd
    obtain ⟨before, after, hin, -⟩ := foundIn_of_definitionOf? hfound hm hdef
    exact ⟨before, after, hin⟩

end CodeSurvey.Definitions

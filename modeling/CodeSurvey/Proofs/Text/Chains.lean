import CodeSurvey.Proofs.Text.Scans

/-!
# Chains of readings

Readings one after the other, with anything between them. A scan is such a chain, and no chain has
more readings than the scan if the pattern is prompt: a reading that starts later ends later too, or
nothing starts between the two ends. So what is counted in two texts is still counted in the text
that a line feed joins of them.
-/

namespace CodeSurvey.Text.Pattern

variable {p : Pattern} {before rest chars after : List Char} {m n : Nat}

/-- Readings that do not overlap in what comes after some text, and how many there are. -/
inductive Chains (p : Pattern) : List Char → List Char → Nat → Prop where
  | stop (before rest : List Char) : Chains p before rest 0
  | skip {before rest : List Char} {c : Char} {n : Nat} :
      Chains p (before ++ [c]) rest n → Chains p before (c :: rest) n
  | read {before chars after : List Char} {n : Nat} : p.Reads before chars after →
      Chains p (before ++ chars) after n → Chains p before (chars ++ after) (n + 1)

theorem Scans.chains (h : p.Scans before rest n) : p.Chains before rest n := by
  induction h with
  | done => exact .stop _ _
  | skip _ _ ih => exact .skip ih
  | hit hreads _ ih => exact .read hreads ih

namespace Chains

/-- Some part of the text is skipped, before all readings. -/
theorem skips (chars : List Char) (h : p.Chains (before ++ chars) rest n) :
    p.Chains before (chars ++ rest) n := by
  induction chars generalizing before with
  | nil => simpa using h
  | cons c chars ih => exact .skip (ih (by simpa using h))

theorem pred (h : p.Chains before rest n) : p.Chains before rest (n - 1) := by
  induction h with
  | stop before rest => exact .stop before rest
  | skip _ ih => exact .skip ih
  | read _ hrest _ => exact hrest.skips _

/-- Where nothing starts in some part of the text, a chain starts after it. -/
theorem pass (h : p.Chains before (chars ++ after) n)
    (hnone : ∀ xs ys, chars = xs ++ ys → ys ≠ [] → ¬ p.Begins ⟨before ++ xs, ys ++ after⟩) :
    p.Chains (before ++ chars) after n := by
  induction chars generalizing before with
  | nil => simpa using h
  | cons c chars ih =>
    generalize hrest : c :: chars ++ after = rest at h
    cases h with
    | stop => exact .stop _ _
    | skip h =>
      obtain ⟨rfl, rfl⟩ := List.cons.inj hrest
      have hlater := ih h fun xs ys hchars hys => by
        simpa using hnone (c :: xs) ys (by rw [hchars, List.cons_append]) hys
      simpa using hlater
    | read hreads =>
      have hhere : p.Begins ⟨before, c :: chars ++ after⟩ := ⟨_, _, hrest, hreads⟩
      exact absurd (by simpa using hhere) (hnone [] (c :: chars) rfl (List.cons_ne_nil _ _))

end Chains

/-! ## Prompt patterns -/

/-- Nothing starts between the end of a reading and that of one which starts no later. -/
def Prompt (p : Pattern) : Prop :=
  ∀ {before gap inner xs ys after after' : List Char},
    p.Reads before (gap ++ inner ++ xs ++ ys) after → p.Reads (before ++ gap) inner after' →
    ys ≠ [] → ¬ p.Begins ⟨before ++ gap ++ inner ++ xs, ys ++ after⟩

theorem Apart.prompt (hp : p.ReadsSome) (h : p.Apart) : p.Prompt := by
  intro before gap inner xs ys after after' hreads hinner hys
  have hne : gap ++ inner ++ xs ≠ [] := by simp [hp hinner]
  simpa using h hreads hne hys

theorem StartsWord.prompt {first : Char} (h : p.StartsWord first) : p.Prompt :=
  Apart.prompt h.readsSome h.apart

/-- After a reading goes on all of a chain but its first reading. -/
theorem Chains.after_reading (hprompt : p.Prompt) {gap todo : List Char}
    (hreads : p.Reads before (gap ++ todo) after)
    (h : p.Chains (before ++ gap) (todo ++ after) n) :
    p.Chains (before ++ (gap ++ todo)) after (n - 1) := by
  induction todo generalizing gap with
  | nil => simpa using h.pred
  | cons c todo ih =>
    generalize hrest : c :: todo ++ after = rest at h
    cases h with
    | stop => exact .stop _ _
    | skip h =>
      obtain ⟨rfl, rfl⟩ := List.cons.inj hrest
      have hreads : p.Reads before (gap ++ [c] ++ todo) after := by simpa using hreads
      have hlater := ih hreads (by simpa using h)
      simpa using hlater
    | @read _ inner after' n hinner h =>
      rw [Nat.add_sub_cancel]
      -- the first reading of the chain goes on to the end of the given one, or ends within it
      rcases List.append_eq_append_iff.1 hrest with ⟨ws, rfl, rfl⟩ | ⟨ws, htodo, rfl⟩
      · apply Chains.skips ws
        simpa using h
      · rw [htodo] at hreads ⊢
        have hpassed := h.pass fun xs ys hws hys => by
          rw [hws, ← List.append_assoc, ← List.append_assoc] at hreads
          exact hprompt hreads hinner hys
        simpa using hpassed

/-- No chain has more readings than the scan of a prompt pattern. -/
theorem Scans.le_of_chains (hprompt : p.Prompt) (h : p.Scans before rest n)
    (hchain : p.Chains before rest m) : m ≤ n := by
  induction h generalizing m with
  | @done before hnone =>
    generalize hrest : ([] : List Char) = rest at hchain
    cases hchain with
    | stop => exact Nat.le_refl 0
    | skip => cases hrest
    | read hreads => exact absurd ⟨_, _, hrest, hreads⟩ hnone
  | @skip before rest c n hnone _ ih =>
    generalize hrest : c :: rest = rest' at hchain
    cases hchain with
    | stop => exact Nat.zero_le n
    | skip hchain =>
      obtain ⟨rfl, rfl⟩ := List.cons.inj hrest
      exact ih hchain
    | read hreads => exact absurd ⟨_, _, hrest, hreads⟩ hnone
  | @hit before chars after n hreads _ ih =>
    have hfirst : p.Reads before ([] ++ chars) after := hreads
    have hrest := Chains.after_reading hprompt hfirst (by simpa using hchain)
    have hle := ih hrest
    omega

theorem chains_count (hp : p.ReadsSome) (text : List Char) : p.Chains [] text (p.count text) :=
  (scans_count hp text).chains

/-- Of all readings that do not overlap in a text, as many as can be are counted. -/
theorem le_count_of_chains (hp : p.ReadsSome) (hprompt : p.Prompt) {text : List Char}
    (h : p.Chains [] text n) : n ≤ p.count text := (scans_count hp text).le_of_chains hprompt h

/-- If each reading takes some characters of a kind, a text has room for so many of them. -/
theorem Chains.mul_le_countP {kind : Char → Bool} {k : Nat}
    (hkind : ∀ {before chars after}, p.Reads before chars after → k ≤ chars.countP kind)
    (h : p.Chains before rest n) : k * n ≤ rest.countP kind := by
  induction h with
  | stop => exact Nat.zero_le _
  | @skip before rest c n _ ih =>
    exact Nat.le_trans ih (List.sublist_cons_self c rest).countP_le
  | @read before chars after n hreads _ ih =>
    have hread := hkind hreads
    rw [List.countP_append, Nat.mul_succ]
    omega

/-! ## Joined texts -/

namespace Chains

variable {a b : List Char}

theorem after_line (h : p.Chains before rest n) (first : List Char) :
    p.Chains (first ++ '\n' :: before) rest n := by
  induction h with
  | stop before rest => exact .stop _ rest
  | skip _ ih => exact .skip (by simpa using ih)
  | read hreads _ ih =>
    exact .read (hreads.of_alike (endAlike_line first _) rfl) (by simpa using ih)

/-- A chain before a line feed and one after it are one. -/
theorem join (h : p.Chains before a m) (h' : p.Chains [] b n) :
    p.Chains before (a ++ '\n' :: b) (m + n) := by
  induction h with
  | stop before a =>
    have hrest : p.Chains (before ++ a ++ ['\n']) b n := by simpa using h'.after_line (before ++ a)
    rw [Nat.zero_add, ← List.singleton_append, ← List.append_assoc]
    apply Chains.skips
    simpa using hrest
  | skip _ ih => exact .skip ih
  | @read before chars after k hreads _ ih =>
    rw [Nat.add_right_comm, List.append_assoc]
    exact .read (hreads.of_alike ⟨rfl, rfl⟩ (startAlike_line after b)) ih

end Chains

theorem count_join_le (hp : p.ReadsSome) (hprompt : p.Prompt) (a b : List Char) :
    p.count a + p.count b ≤ p.count (a ++ '\n' :: b) :=
  le_count_of_chains hp hprompt ((chains_count hp a).join (chains_count hp b))

end CodeSurvey.Text.Pattern

/-!
# Sorted maps

Maps from text to values, kept as a list of entries with strictly increasing keys, so that equal
maps are equal lists.
-/

namespace CodeSurvey

def KeysIncrease (entries : List (String × α)) : Prop :=
  entries.Pairwise fun a b => a.1 < b.1

structure SortedMap (α : Type u) where
  entries : List (String × α)
  increase : KeysIncrease entries

namespace SortedMap

def empty : SortedMap α := ⟨[], .nil⟩

instance : EmptyCollection (SortedMap α) := ⟨empty⟩

instance : Inhabited (SortedMap α) := ⟨empty⟩

def find? (m : SortedMap α) (key : String) : Option α := m.entries.lookup key

def keys (m : SortedMap α) : List String := m.entries.map Prod.fst

def values (m : SortedMap α) : List α := m.entries.map Prod.snd

def insertEntry (key : String) (value : α) : List (String × α) → List (String × α)
  | [] => [(key, value)]
  | e :: rest =>
    if key < e.1 then (key, value) :: e :: rest
    else if e.1 < key then e :: insertEntry key value rest
    else (key, value) :: rest

theorem mem_insertEntry {key : String} {value : α} {e : String × α} :
    ∀ {entries : List (String × α)}, e ∈ insertEntry key value entries →
      e = (key, value) ∨ e ∈ entries
  | [], h => by simpa [insertEntry] using h
  | a :: rest, h => by
    rw [insertEntry] at h
    split at h
    · simpa using h
    · split at h
      · rcases List.mem_cons.1 h with h | h
        · simp [h]
        · rcases mem_insertEntry h with h | h <;> simp [h]
      · rcases List.mem_cons.1 h with h | h <;> simp [h]

theorem insertEntry_increase {key : String} {value : α} :
    ∀ {entries : List (String × α)}, KeysIncrease entries →
      KeysIncrease (insertEntry key value entries)
  | [], _ => by simp [insertEntry, KeysIncrease]
  | a :: rest, h => by
    have ha := List.pairwise_cons.1 h
    rw [insertEntry]
    split
    next hlt =>
      refine List.pairwise_cons.2 ⟨fun b hb => ?_, h⟩
      rcases List.mem_cons.1 hb with hb | hb
      · simpa [hb] using hlt
      · exact String.lt_trans hlt (ha.1 b hb)
    next hlt =>
      split
      next hgt =>
        refine List.pairwise_cons.2 ⟨fun b hb => ?_, insertEntry_increase ha.2⟩
        rcases mem_insertEntry hb with hb | hb
        · simpa [hb] using hgt
        · exact ha.1 b hb
      next hgt =>
        have heq : a.1 = key := String.le_antisymm hlt hgt
        refine List.pairwise_cons.2 ⟨fun b hb => ?_, ha.2⟩
        simpa [heq] using ha.1 b hb

def insert (m : SortedMap α) (key : String) (value : α) : SortedMap α :=
  ⟨insertEntry key value m.entries, insertEntry_increase m.increase⟩

def update [Inhabited α] (m : SortedMap α) (key : String) (f : α → α) : SortedMap α :=
  m.insert key (f ((m.find? key).getD default))

def ofList (entries : List (String × α)) : SortedMap α :=
  entries.foldl (fun m e => m.insert e.1 e.2) empty

theorem lookup_entry (k : String) (e : String × α) (rest : List (String × α)) :
    (e :: rest).lookup k = if k = e.1 then some e.2 else rest.lookup k := by
  rw [List.lookup_cons]
  by_cases h : k = e.1
  · rw [if_pos h, beq_iff_eq.2 h]
  · rw [if_neg h, beq_eq_false_iff_ne.2 h]

theorem mem_of_lookup {key : String} {value : α} {entries : List (String × α)}
    (h : entries.lookup key = some value) : (key, value) ∈ entries := by
  induction entries with
  | nil => cases h
  | cons e rest ih =>
    rw [lookup_entry] at h
    by_cases hkey : key = e.1
    · rw [if_pos hkey] at h
      cases h
      rw [hkey]
      exact List.mem_cons_self
    · rw [if_neg hkey] at h
      exact List.mem_cons_of_mem _ (ih h)

theorem lookup_eq_some {entries : List (String × α)} (hkeys : (entries.map Prod.fst).Nodup)
    {e : String × α} (h : e ∈ entries) : entries.lookup e.1 = some e.2 := by
  induction entries with
  | nil => cases h
  | cons first rest ih =>
    rw [List.map_cons, List.nodup_cons] at hkeys
    rw [lookup_entry]
    rcases List.mem_cons.1 h with rfl | hrest
    · rw [if_pos rfl]
    · have hne : e.1 ≠ first.1 := fun heq => hkeys.1 (heq ▸ List.mem_map_of_mem hrest)
      rw [if_neg hne]
      exact ih hkeys.2 hrest

theorem lookup_insertEntry (key k : String) (value : α) (entries : List (String × α)) :
    (insertEntry key value entries).lookup k = if k = key then some value else entries.lookup k := by
  induction entries with
  | nil => rw [insertEntry, lookup_entry]
  | cons e rest ih =>
    rw [insertEntry]
    split
    next hlt => rw [lookup_entry]
    next hlt =>
      split
      next hgt =>
        have hne : key ≠ e.1 := fun h => String.lt_irrefl key (h ▸ hgt)
        rw [lookup_entry, ih, lookup_entry]
        by_cases h : k = key <;> simp [h, hne]
      next hgt =>
        have heq : e.1 = key := String.le_antisymm hlt hgt
        rw [lookup_entry, lookup_entry, heq]
        by_cases h : k = key <;> simp [h]

@[simp] theorem find?_empty (key : String) : (∅ : SortedMap α).find? key = none := rfl

theorem find?_insert (m : SortedMap α) (key k : String) (value : α) :
    (m.insert key value).find? k = if k = key then some value else m.find? k :=
  lookup_insertEntry key k value m.entries

theorem find?_foldl_insert (keep : α → Bool) (value : String → α) (names : List String)
    (m : SortedMap α) (k : String) :
    (names.foldl (fun m name =>
      if keep (value name) then m.insert name (value name) else m) m).find? k =
      if k ∈ names ∧ keep (value k) then some (value k) else m.find? k := by
  induction names generalizing m with
  | nil => simp
  | cons name names ih =>
    rw [List.foldl_cons, ih]
    by_cases hk : k = name
    · subst hk
      by_cases h : keep (value k)
      · simp [h, find?_insert]
      · simp [h]
    · by_cases h : keep (value name)
      · simp [h, hk, find?_insert]
      · simp [h, hk]

theorem find?_update [Inhabited α] (m : SortedMap α) (key k : String) (f : α → α) :
    (m.update key f).find? k =
      if key = k then some (f ((m.find? k).getD default)) else m.find? k := by
  rw [update, find?_insert]
  by_cases h : key = k
  · simp [h]
  · simp [h, Ne.symm h]

/-- What updates one after the other leave at a key is made by those of that key. -/
theorem find?_foldl_update [Inhabited α] (key : β → String) (f : β → α → α) (xs : List β)
    (m : SortedMap α) (k : String) :
    (xs.foldl (fun m x => m.update (key x) (f x)) m).find? k =
      if xs.filter (fun x => key x == k) = [] then m.find? k
      else some ((xs.filter fun x => key x == k).foldl (fun a x => f x a)
        ((m.find? k).getD default)) := by
  induction xs generalizing m with
  | nil => rfl
  | cons x xs ih =>
    rw [List.foldl_cons, ih, find?_update]
    by_cases h : key x = k
    · by_cases hmine : xs.filter (fun x => key x == k) = []
      · simp [h, hmine]
      · simp [h, hmine]
    · simp [h]

theorem mem_entries {m : SortedMap α} {key : String} {value : α} :
    (key, value) ∈ m.entries ↔ m.find? key = some value := by
  obtain ⟨entries, increase⟩ := m
  rw [find?]
  induction entries with
  | nil => simp
  | cons a rest ih =>
    obtain ⟨ha, hrest⟩ := List.pairwise_cons.1 increase
    rw [lookup_entry, List.mem_cons, ih hrest]
    by_cases h : key = a.1
    · have hnone : rest.lookup key = none := by
        refine List.lookup_eq_none_iff.2 fun b hb => bne_iff_ne.2 fun heq => ?_
        have hlt := ha b hb
        rw [← h, heq] at hlt
        exact String.lt_irrefl _ hlt
      rw [hnone, if_pos h]
      simp [Prod.ext_iff, h, eq_comm]
    · have hne : (key, value) ≠ a := fun heq => h (congrArg Prod.fst heq)
      rw [if_neg h]
      simp [hne]

theorem mem_keys {m : SortedMap α} {key : String} : key ∈ m.keys ↔ (m.find? key).isSome := by
  rw [find?, List.lookup_isSome_iff, keys, List.mem_map]
  constructor
  · rintro ⟨e, he, rfl⟩
    exact ⟨e, he, beq_self_eq_true e.1⟩
  · rintro ⟨e, he, h⟩
    exact ⟨e, he, (beq_iff_eq.1 h).symm⟩

@[ext] theorem ext {a b : SortedMap α} (h : a.entries = b.entries) : a = b := by
  cases a
  cases b
  simp_all

theorem nodup_entries (m : SortedMap α) : m.entries.Nodup := by
  refine List.Pairwise.imp ?_ m.increase
  rintro a b hlt rfl
  exact String.lt_irrefl _ hlt

theorem insertEntry_of_last {key : String} {value : α} {entries : List (String × α)}
    (h : ∀ e ∈ entries, e.1 < key) : insertEntry key value entries = entries ++ [(key, value)] := by
  induction entries with
  | nil => rfl
  | cons e rest ih =>
    have he := h e List.mem_cons_self
    have hnot : ¬ key < e.1 := fun hlt => String.lt_irrefl key (String.lt_trans hlt he)
    rw [insertEntry, if_neg hnot, if_pos he, ih fun e' he' => h e' (List.mem_cons_of_mem e he'),
      List.cons_append]

/-- Entries in order are kept as they are. -/
theorem ofList_entries (m : SortedMap α) : ofList m.entries = m := by
  have hfold (rest : List (String × α)) (start : SortedMap α)
      (h : KeysIncrease (start.entries ++ rest)) :
      (rest.foldl (fun m e => m.insert e.1 e.2) start).entries = start.entries ++ rest := by
    induction rest generalizing start with
    | nil => exact (List.append_nil _).symm
    | cons e rest ih =>
      have hlast : ∀ e' ∈ start.entries, e'.1 < e.1 :=
        fun e' he' => (List.pairwise_append.1 h).2.2 e' he' e List.mem_cons_self
      have hinsert : (start.insert e.1 e.2).entries = start.entries ++ [e] :=
        insertEntry_of_last hlast
      rw [List.foldl_cons, ih, hinsert, List.append_assoc, List.singleton_append]
      rwa [hinsert, List.append_assoc, List.singleton_append]
  exact ext (hfold m.entries empty m.increase)

theorem mem_ofList {entries : List (String × α)} {e : String × α}
    (h : e ∈ (ofList entries).entries) : e ∈ entries := by
  have hfold (rest : List (String × α)) (start : SortedMap α)
      (h : e ∈ (rest.foldl (fun m e => m.insert e.1 e.2) start).entries) :
      e ∈ start.entries ∨ e ∈ rest := by
    induction rest generalizing start with
    | nil => exact .inl h
    | cons first rest ih =>
      rcases ih (start.insert first.1 first.2) h with hstart | hrest
      · rcases mem_insertEntry hstart with rfl | hmem
        · exact .inr List.mem_cons_self
        · exact .inl hmem
      · exact .inr (List.mem_cons_of_mem first hrest)
  rcases hfold entries empty h with hempty | hmem
  · cases hempty
  · exact hmem

/-- Maps that find the same values are equal. -/
theorem ext_find? {a b : SortedMap α} (h : ∀ key, a.find? key = b.find? key) : a = b := by
  have hmem : ∀ e, e ∈ a.entries ↔ e ∈ b.entries := by
    intro ⟨key, value⟩
    rw [mem_entries, mem_entries, h]
  have hperm := (List.perm_ext_iff_of_nodup a.nodup_entries b.nodup_entries).2 hmem
  refine ext (hperm.eq_of_pairwise ?_ a.increase b.increase)
  intro x y _ _ hxy hyx
  exact absurd (String.lt_trans hxy hyx) (String.lt_irrefl _)

end SortedMap
end CodeSurvey

import CodeSurvey.Facts.Decoding
import CodeSurvey.Proofs.Data.Results

/-!
# Reading what was written

A value is written as JSON and read back as it was: plain values, lists, maps and names of an
enumeration, and records of these, whether or not a field that need not be there is left out.
-/

namespace CodeSurvey
open Json

/-- Counts are words of 64 bits. -/
def IsCount (n : Nat) : Prop := n < UInt64.size

/-- The values with some property are written so that they are read back, and no others are read. -/
structure Codec {α : Type} (P : α → Prop) (write : α → Json) (read : Json → Except Misfit α) :
    Prop where
  read_write : ∀ a, P a → read (write a) = .ok a
  of_read : ∀ v a, read v = .ok a → P a

namespace Codec
variable {α : Type} {P : α → Prop} {write : α → Json} {read : Json → Except Misfit α}

/-! ## Plain values -/

theorem text : Codec (fun _ => True) .string readText :=
  ⟨fun _ _ => rfl, fun _ _ _ => trivial⟩

theorem boolean : Codec (fun _ => True) .bool readBoolean :=
  ⟨fun _ _ => rfl, fun _ _ _ => trivial⟩

theorem readWhole_number {w : WordType} {n : Int} (hleast : w.least ≤ n)
    (hgreatest : n ≤ w.greatest) : readWhole w (.number n) = .ok n := by
  have hcontains : w.contains n = true := by simp [WordType.contains, hleast, hgreatest]
  rw [readWhole, if_pos hcontains]

theorem bounds_of_readWhole {w : WordType} {v : Json} {n : Int} (h : readWhole w v = .ok n) :
    w.least ≤ n ∧ n ≤ w.greatest := by
  cases v with
  | number m =>
    rw [readWhole] at h
    split at h
    next hcontains =>
      cases h
      simpa [WordType.contains] using hcontains
    next => cases h
  | _ => cases h

theorem count : Codec IsCount .ofNat readCount where
  read_write n hn := by
    have hread : readWhole .count (.number n) = .ok (n : Int) := by
      rw [IsCount, UInt64.size] at hn
      apply readWhole_number
      · exact Int.natCast_nonneg n
      · simp only [WordType.count]
        omega
    rw [readCount, Format.count, Json.ofNat]
    exact congrArg (Int.toNat <$> ·) hread
  of_read v n h := by
    obtain ⟨m, hread, rfl⟩ := exists_of_map h
    obtain ⟨-, hgreatest⟩ := bounds_of_readWhole hread
    simp only [WordType.count] at hgreatest
    rw [IsCount, UInt64.size]
    omega

theorem signed32 : Codec (fun _ => True) .ofInt32 readInt32 where
  read_write n _ := by
    have hread : readWhole .signed32 (.number n.toInt) = .ok n.toInt :=
      readWhole_number n.le_toInt (Int.le_of_lt_add_one n.toInt_lt)
    rw [readInt32, Format.signed32, Json.ofInt32]
    exact (congrArg (Int32.ofInt <$> ·) hread).trans (congrArg Except.ok n.ofInt_toInt)
  of_read _ _ _ := trivial

theorem word64 : Codec (fun _ => True) (fun n : UInt64 => .number n.toNat)
    (Format.word64 format) where
  read_write n _ := by
    have hread : readWhole .word64 (.number n.toNat) = .ok (n.toNat : Int) := by
      have hbound := n.toNat_lt
      apply readWhole_number
      · exact Int.natCast_nonneg _
      · simp only [WordType.word64]
        omega
    rw [Format.word64]
    exact (congrArg ((fun n => UInt64.ofNat n.toNat) <$> ·) hread).trans
      (congrArg Except.ok UInt64.ofNat_toNat)
  of_read _ _ _ := trivial

theorem word32 : Codec (fun _ => True) (fun n : UInt32 => .number n.toNat)
    (Format.word32 format) where
  read_write n _ := by
    have hread : readWhole .word32 (.number n.toNat) = .ok (n.toNat : Int) := by
      have hbound := n.toNat_lt
      apply readWhole_number
      · exact Int.natCast_nonneg _
      · simp only [WordType.word32]
        omega
    rw [Format.word32]
    exact (congrArg ((fun n => UInt32.ofNat n.toNat) <$> ·) hread).trans
      (congrArg Except.ok UInt32.ofNat_toNat)
  of_read _ _ _ := trivial

/-! ## Options, lists and maps -/

theorem readOption_of_ne {v : Json} (h : v ≠ .null) : readOption read v = some <$> read v := by
  cases v with
  | null => exact absurd rfl h
  | _ => rfl

/-- A value that may be missing is null if it is. -/
theorem option (c : Codec P write read) (hnull : ∀ a, write a ≠ .null) :
    Codec (fun o => ∀ a, o = some a → P a) (fun o => (o.map write).getD .null)
      (readOption read) where
  read_write o ho := by
    cases o with
    | none => rfl
    | some a =>
      rw [Option.map_some, Option.getD_some, readOption_of_ne (hnull a), c.read_write a (ho a rfl)]
      rfl
  of_read v o h a ha := by
    subst ha
    cases v with
    | null => cases h
    | _ =>
      obtain ⟨_, hread, hsome⟩ := exists_of_map h
      cases hsome
      exact c.of_read _ _ hread

theorem list (c : Codec P write read) :
    Codec (fun as => ∀ a ∈ as, P a) (fun as => .array (as.map write)) (readList read) where
  read_write as has := mapM_map_eq_ok fun a ha => c.read_write a (has a ha)
  of_read v as h a ha := by
    cases v with
    | array items =>
      obtain ⟨item, -, hread⟩ := exists_of_mapM h ha
      exact c.of_read item a hread
    | _ => cases h

theorem map (c : Codec P write read) :
    Codec (fun m => ∀ a ∈ m.values, P a) (fun m => m.encode write) (readMap read) where
  read_write m hm := by
    have hentry : ∀ e ∈ m.entries, (do return (e.1, ← read (write e.2))) = Except.ok e := by
      intro e he
      rw [c.read_write e.2 (hm e.2 (List.mem_map_of_mem he))]
      rfl
    have hentries : (m.entries.map fun e => (e.1, write e.2)).mapM
        (fun field => do return (field.1, ← read field.2)) = .ok m.entries :=
      mapM_map_eq_ok hentry
    exact (congrArg (SortedMap.ofList <$> ·) hentries).trans
      (congrArg Except.ok m.ofList_entries)
  of_read v m h a ha := by
    cases v with
    | object fields =>
      obtain ⟨entries, hread, hm⟩ := exists_of_bind h
      cases hm
      obtain ⟨e, he, rfl⟩ := List.mem_map.1 ha
      obtain ⟨field, -, hfield⟩ := exists_of_mapM hread (SortedMap.mem_ofList he)
      obtain ⟨found, hvalue, hpair⟩ := exists_of_bind hfield
      cases hpair
      exact c.of_read _ _ hvalue
    | _ => cases h

/-! ## Enumerations -/

theorem readVariant_name {all : List α} {name : α → String} {a : α} (ha : a ∈ all)
    (hname : ∀ b ∈ all, name b = name a → b = a) :
    readVariant all name (.string (name a)) = .ok a := by
  have hsome : (all.find? fun b => name b == name a).isSome :=
    List.find?_isSome.2 ⟨a, ha, beq_self_eq_true (name a)⟩
  obtain ⟨b, hb⟩ := Option.isSome_iff_exists.1 hsome
  have hfound : (name b == name a) = true := List.find?_some (p := fun b => name b == name a) hb
  have hsame := hname b (List.mem_of_find?_eq_some hb) (beq_iff_eq.1 hfound)
  rw [readVariant, readName, hb, hsame]

theorem variant {all : List α} {name : α → String} (hall : ∀ a, a ∈ all)
    (hname : ∀ a ∈ all, ∀ b ∈ all, name b = name a → b = a) :
    Codec (fun _ => True) (fun a => .string (name a)) (readVariant all name) :=
  ⟨fun a _ => readVariant_name (hall a) (hname a (hall a)), fun _ _ _ => trivial⟩

end Codec

/-! ## Records -/

theorem Json.lookup_optionalField (key name : String) (o : Option Json) :
    (optionalField key o).lookup name = if name = key then o else none := by
  cases o <;> simp [optionalField, SortedMap.lookup_entry]

namespace Record
variable {α β : Type} {P : α → Prop} {write : α → Json} {read : Json → Except Misfit α}
  {entries : List (String × Json)} {name : String}

/-- The entries of an object make up a record. -/
structure Reads (r : Record Json Misfit β) (entries : List (String × Json)) (b : β) : Prop where
  built : ∀ missing, r.build (List.lookup · entries) missing = .ok b
  checked : ∀ field ∈ r.fields, ∀ v, entries.lookup field.1 = some v → field.2 v = .ok ()

theorem Reads.of (b : β) : (of b).Reads entries b := ⟨fun _ => rfl, fun _ h => nomatch h⟩

section Field
variable {r : Record Json Misfit (α → β)} {f : α → β} {a : α}

/-- The value of a field is read if it is found. -/
def fieldValue (find : String → Option Json) (missing : String → Misfit) (name : String)
    (read : Json → Except Misfit α) (absent : (String → Misfit) → Except Misfit α) :
    Except Misfit α :=
  match find name with
  | some v => read v
  | none => absent missing

theorem build_field (r : Record Json Misfit (α → β)) (name : String)
    (read : Json → Except Misfit α) (absent : (String → Misfit) → Except Misfit α)
    (find : String → Option Json) (missing : String → Misfit) :
    (r.field name read absent).build find missing = (do
      let f ← r.build find missing
      let a ← fieldValue find missing name read absent
      return f a) := by
  simp only [field, fieldValue]
  cases find name <;> rfl

theorem Reads.found {absent : (String → Misfit) → Except Misfit α} (h : r.Reads entries f) {v : Json}
    (hfound : entries.lookup name = some v) (hread : read v = .ok a) :
    (r.field name read absent).Reads entries (f a) where
  built missing := by
    rw [build_field, h.built, fieldValue, hfound]
    exact congrArg (fun result => do return f (← result)) hread
  checked field hfield v' hv' := by
    rcases List.mem_append.1 hfield with hfield | hfield
    · exact h.checked field hfield v' hv'
    · cases List.mem_singleton.1 hfield
      cases hfound.symm.trans hv'
      exact congrArg (Except.map fun _ => ()) hread

theorem Reads.absent {absent : (String → Misfit) → Except Misfit α} (h : r.Reads entries f)
    (hfound : entries.lookup name = none) (habsent : ∀ missing, absent missing = .ok a) :
    (r.field name read absent).Reads entries (f a) where
  built missing := by
    rw [build_field, h.built, fieldValue, hfound]
    exact congrArg (fun result => do return f (← result)) (habsent missing)
  checked field hfield v' hv' := by
    rcases List.mem_append.1 hfield with hfield | hfield
    · exact h.checked field hfield v' hv'
    · cases List.mem_singleton.1 hfield
      cases hfound.symm.trans hv'

theorem Reads.required (h : r.Reads entries f) (c : Codec P write read) (ha : P a)
    (hfound : entries.lookup name = some (write a) := by
      simp [List.lookup_append, SortedMap.lookup_entry, Json.lookup_optionalField]) :
    (r.required name read).Reads entries (f a) := h.found hfound (c.read_write a ha)

theorem Reads.optional {fallback : α} (h : r.Reads entries f) (c : Codec P write read) (ha : P a)
    (hfound : entries.lookup name = some (write a) := by
      simp [List.lookup_append, SortedMap.lookup_entry, Json.lookup_optionalField]) :
    (r.optional name fallback read).Reads entries (f a) := h.found hfound (c.read_write a ha)

end Field

/-- A field that is left out if it is not known. -/
theorem Reads.known {r : Record Json Misfit (Option α → β)} {f : Option α → β} {o : Option α}
    (h : r.Reads entries f) (c : Codec P write read) (ho : ∀ a, o = some a → P a)
    (hnull : ∀ a, write a ≠ .null := by intro _ h; cases h)
    (hfound : entries.lookup name = o.map write := by
      simp [List.lookup_append, SortedMap.lookup_entry, Json.lookup_optionalField]) :
    (r.known name read).Reads entries (f o) := by
  cases o with
  | none => exact h.absent hfound fun _ => rfl
  | some a => exact h.found hfound ((c.option hnull).read_write (some a) ho)

/-- What is read as a record has some property, whatever it is read from. -/
def Yields (r : Record Json Misfit β) (Q : β → Prop) : Prop :=
  ∀ find missing b, r.build find missing = .ok b → Q b

theorem Yields.of {Q : β → Prop} {b : β} (h : Q b) :
    (of b : Record Json Misfit β).Yields Q := by
  intro _ _ _ hbuild
  cases hbuild
  exact h

section Field
variable {r : Record Json Misfit (α → β)} {Q : β → Prop}

theorem Yields.field {absent : (String → Misfit) → Except Misfit α} (c : Codec P write read)
    (habsent : ∀ missing a, absent missing = .ok a → P a)
    (h : r.Yields fun f => ∀ a, P a → Q (f a)) : (r.field name read absent).Yields Q := by
  intro find missing b hbuild
  rw [build_field] at hbuild
  obtain ⟨f, hf, hrest⟩ := exists_of_bind hbuild
  obtain ⟨a, ha, hb⟩ := exists_of_bind hrest
  cases hb
  apply h find missing f hf
  rw [fieldValue] at ha
  split at ha
  · exact c.of_read _ a ha
  · exact habsent missing a ha

theorem Yields.required (c : Codec P write read) (h : r.Yields fun f => ∀ a, P a → Q (f a)) :
    (r.required name read).Yields Q :=
  .field c (fun _ _ habsent => nomatch habsent) h

end Field

theorem Yields.known {r : Record Json Misfit (Option α → β)} {Q : β → Prop}
    (c : Codec P write read) (h : r.Yields fun f => ∀ o, (∀ a, o = some a → P a) → Q (f o))
    (hnull : ∀ a, write a ≠ .null := by intro _ h; cases h) :
    (r.known name read).Yields Q := by
  apply Yields.field (c.option hnull) _ h
  intro _ _ habsent _ ha
  cases habsent
  cases ha

theorem readRecord_object {r : Record Json Misfit β} {typeName : String} {b : β}
    (hkeys : (entries.map Prod.fst).Nodup) (h : r.Reads entries b) :
    readRecord typeName r (.object entries) = .ok b := by
  have hchecked : checkFields r entries = .ok () := by
    apply forM_eq_ok
    intro ⟨key, v⟩ he
    cases hcheck : r.fields.lookup key with
    | none => simp only [hcheck]
    | some check =>
      simp only [hcheck]
      exact h.checked (key, check) (SortedMap.mem_of_lookup hcheck) v
        (SortedMap.lookup_eq_some hkeys he)
  rw [readRecord, hchecked]
  exact h.built _

theorem Yields.of_readRecord {r : Record Json Misfit β} {Q : β → Prop} {typeName : String}
    {v : Json} {b : β} (hread : readRecord typeName r v = .ok b) (h : r.Yields Q) : Q b := by
  cases v with
  | object entries =>
    obtain ⟨_, -, hbuild⟩ := exists_of_bind hread
    exact h _ _ b hbuild
  | array items =>
    obtain ⟨_, -, hrest⟩ := exists_of_bind hread
    obtain ⟨b', hbuild, hlength⟩ := exists_of_bind hrest
    split at hlength
    next => cases hlength
    next =>
      cases hlength
      exact h _ _ b hbuild
  | _ => cases hread

end Record

end CodeSurvey

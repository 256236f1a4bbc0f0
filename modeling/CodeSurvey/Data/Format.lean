import CodeSurvey.Data.Misfit

/-!
# Formats

Records are described once, field by field, and read from any format that can tell text, numbers,
lists and fields apart.
-/

namespace CodeSurvey

structure Record (V E α : Type) where
  /-- The fields in order, each with a check of its value. -/
  fields : List (String × (V → Except E Unit))
  /-- Put the record together, given the value of each field and the complaint about one that is
  missing. -/
  build : (String → Option V) → (String → E) → Except E α

namespace Record

variable {V E α β : Type}

def of (a : α) : Record V E α := ⟨[], fun _ _ => .ok a⟩

def names (r : Record V E α) : List String := r.fields.map Prod.fst

def field (r : Record V E (α → β)) (name : String) (read : V → Except E α)
    (absent : (String → E) → Except E α) : Record V E β where
  fields := r.fields ++ [(name, fun v => (read v).map fun _ => ())]
  build find missing := do
    let f ← r.build find missing
    let a ← match find name with
      | some v => read v
      | none => absent missing
    return f a

def required (r : Record V E (α → β)) (name : String) (read : V → Except E α) : Record V E β :=
  r.field name read fun missing => .error (missing name)

def optional (r : Record V E (α → β)) (name : String) (fallback : α) (read : V → Except E α) :
    Record V E β :=
  r.field name read fun _ => .ok fallback

end Record

structure Format (V E : Type) where
  text : V → Except E String
  boolean : V → Except E Bool
  whole : WordType → V → Except E Int
  option : {α : Type} → (V → Except E α) → V → Except E (Option α)
  list : {α : Type} → (V → Except E α) → V → Except E (List α)
  record : {α : Type} → String → Record V E α → V → Except E α

namespace Format

variable {V E : Type}

def count (f : Format V E) (v : V) : Except E Nat := Int.toNat <$> f.whole .count v

def word64 (f : Format V E) (v : V) : Except E UInt64 :=
  (fun n => UInt64.ofNat n.toNat) <$> f.whole .word64 v

def word32 (f : Format V E) (v : V) : Except E UInt32 :=
  (fun n => UInt32.ofNat n.toNat) <$> f.whole .word32 v

def signed32 (f : Format V E) (v : V) : Except E Int32 := Int32.ofInt <$> f.whole .signed32 v

end Format
end CodeSurvey

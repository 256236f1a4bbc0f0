/-!
# Token sets

Sets of token numbers below 192, kept as three machine words. The state construction forms
hundreds of thousands of unions, so the words are compared and joined directly.
-/

namespace CodeSurvey.Parsing

structure TokenSet where
  low : UInt64
  middle : UInt64
  high : UInt64
deriving DecidableEq, Hashable, Inhabited

namespace TokenSet

def empty : TokenSet := ⟨0, 0, 0⟩

def isEmpty (s : TokenSet) : Bool := s.low == 0 && s.middle == 0 && s.high == 0

def singleton (i : Nat) : TokenSet :=
  let bit : UInt64 := 1 <<< (i % 64).toUInt64
  if i < 64 then ⟨bit, 0, 0⟩ else if i < 128 then ⟨0, bit, 0⟩ else ⟨0, 0, bit⟩

def union (s t : TokenSet) : TokenSet :=
  ⟨s.low ||| t.low, s.middle ||| t.middle, s.high ||| t.high⟩

def inter (s t : TokenSet) : TokenSet :=
  ⟨s.low &&& t.low, s.middle &&& t.middle, s.high &&& t.high⟩

def diff (s t : TokenSet) : TokenSet :=
  ⟨s.low &&& ~~~t.low, s.middle &&& ~~~t.middle, s.high &&& ~~~t.high⟩

def contains (s : TokenSet) (i : Nat) : Bool :=
  let word := if i < 64 then s.low else if i < 128 then s.middle else s.high
  (word >>> (i % 64).toUInt64) &&& 1 == 1

def insert (s : TokenSet) (i : Nat) : TokenSet := s.union (singleton i)

def disjoint (s t : TokenSet) : Bool := (s.inter t).isEmpty

def ofList (is : List Nat) : TokenSet := is.foldl insert empty

def toList (s : TokenSet) : List Nat := (List.range 192).filter s.contains

theorem union_empty (s : TokenSet) : s.union empty = s := by
  simp [union, empty]

theorem empty_union (s : TokenSet) : empty.union s = s := by
  simp [union, empty]

theorem union_comm (s t : TokenSet) : s.union t = t.union s := by
  simp [union, UInt64.or_comm]

theorem union_self (s : TokenSet) : s.union s = s := by
  simp [union]

end TokenSet
end CodeSurvey.Parsing

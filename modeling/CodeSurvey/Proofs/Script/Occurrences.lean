import CodeSurvey.Script.Node
import Mathlib.Data.List.Basic

/-!
# Occurrences

The nodes of a program in preorder, alone and together with what stands around them. What holds of
a node because of its surroundings is said over its enclosures, the innermost first.
-/

namespace CodeSurvey.Script

/-- What stands directly around a child: the node it belongs to and, where the child is the
initializer of a declarator, that declarator. -/
structure Enclosure where
  parent : Node
  initializes : Option (Declarator Node)

def Declarator.enclosed (parent : Node) (d : Declarator Node) : List (Enclosure × Node) :=
  (⟨parent, none⟩, d.id) :: d.init.toList.map (Prod.mk ⟨parent, some d⟩)

namespace Node

def enclosed (n : Node) : List (Enclosure × Node) :=
  match n with
  | .declaration _ ds _ => ds.flatMap (Declarator.enclosed n)
  | _ => n.children.map (Prod.mk ⟨n, none⟩)

theorem enclosed_map_snd (n : Node) : n.enclosed.map Prod.snd = n.children := by
  have drop (e : Enclosure) (ns : List Node) : (ns.map (Prod.mk e)).map Prod.snd = ns := by
    simp [Function.comp_def]
  cases n with
  | declaration k ds s =>
    simp only [enclosed, children, List.map_flatMap]
    congr 1
    funext d
    simp only [Declarator.enclosed, Declarator.children, List.map_cons, drop]
  | _ => exact drop _ _

theorem enclosed_parent {n : Node} {x : Enclosure × Node} (h : x ∈ n.enclosed) :
    x.1.parent = n := by
  have plain (ns : List Node) (h : x ∈ ns.map (Prod.mk ⟨n, none⟩)) : x.1.parent = n := by
    obtain ⟨c, _, rfl⟩ := List.mem_map.1 h
    rfl
  cases n with
  | declaration k ds s =>
    obtain ⟨d, _, hx⟩ := List.mem_flatMap.1 h
    rcases List.mem_cons.1 hx with rfl | hx
    · rfl
    · obtain ⟨c, _, rfl⟩ := List.mem_map.1 hx
      rfl
  | _ => exact plain _ h

theorem sizeOf_enclosed {n : Node} {x : Enclosure × Node} (h : x ∈ n.enclosed) :
    sizeOf x.2 < sizeOf n :=
  sizeOf_mem_children (enclosed_map_snd n ▸ List.mem_map_of_mem h)

theorem childInduction {P : Node → Prop} (step : ∀ n, (∀ c ∈ n.children, P c) → P n) (n : Node) :
    P n :=
  step n fun c _ => childInduction step c
termination_by n
decreasing_by exact sizeOf_mem_children ‹_›

def preorder (n : Node) : List Node :=
  n :: n.children.attach.flatMap fun ⟨c, _⟩ => preorder c
termination_by n
decreasing_by exact sizeOf_mem_children ‹_›

theorem preorder_eq (n : Node) : n.preorder = n :: n.children.flatMap preorder := by
  rw [preorder]
  congr 1
  simp only [List.flatMap_subtype, List.unattach_attach]

end Node

/-- A node at its place in a program, with its enclosures from the inside out. -/
structure Occurrence where
  around : List Enclosure
  node : Node

namespace Node

/-- A node and all nodes below it in preorder, where `around` stands around the node itself. -/
def occurrencesIn (around : List Enclosure) (n : Node) : List Occurrence :=
  ⟨around, n⟩ :: n.enclosed.attach.flatMap fun ⟨x, _⟩ => occurrencesIn (x.1 :: around) x.2
termination_by n
decreasing_by exact sizeOf_enclosed ‹_›

theorem occurrencesIn_eq (around : List Enclosure) (n : Node) :
    n.occurrencesIn around =
      ⟨around, n⟩ :: n.enclosed.flatMap fun x => x.2.occurrencesIn (x.1 :: around) := by
  rw [occurrencesIn]
  congr 1
  simp only [List.flatMap_subtype, List.unattach_attach]

def occurrences (program : Node) : List Occurrence := program.occurrencesIn []

theorem occurrencesIn_map_node (around : List Enclosure) (n : Node) :
    (n.occurrencesIn around).map Occurrence.node = n.preorder := by
  induction n using childInduction generalizing around with
  | step n ih =>
    rw [occurrencesIn_eq, preorder_eq, List.map_cons, List.map_flatMap, ← enclosed_map_snd,
      List.flatMap_map]
    congr 1
    refine List.flatMap_congr fun x hx => ih x.2 ?_ _
    exact enclosed_map_snd n ▸ List.mem_map_of_mem hx

/-- Nothing is enumerated beside the nodes that lie below one another. -/
theorem occurrences_map_node (program : Node) :
    program.occurrences.map Occurrence.node = program.preorder :=
  occurrencesIn_map_node [] program

end Node
end CodeSurvey.Script

import CodeSurvey.Proofs.Script.Occurrences
import CodeSurvey.References.Calls

/-!
# The calls of a program

Which calls are recorded for a name, and whom they are charged to. Going through a program with the
caller in hand is compared with looking outwards from each call: the caller is the name of the
nearest scope that has one.
-/

namespace CodeSurvey.Script

/-- The name that an enclosure gives to what is inside: a function declaration its own, and the
initializer of a declarator that of the declarator, if it is a function. -/
def Enclosure.scopeName? (e : Enclosure) : Option String :=
  match e.initializes, e.parent with
  | some ⟨.identifier name _, some (.function _), _⟩, _ => some name
  | some _, _ => none
  | none, .function f => if f.kind = .declaration then f.name else none
  | none, _ => none

/-- The name of the nearest scope around a node. -/
def Occurrence.caller? (o : Occurrence) : Option String := o.around.findSome? Enclosure.scopeName?

/-- Whether a node is a call by a name: of a function, or of a property so named. -/
def Node.isCallOf (name : String) : Node → Bool
  | .call (.identifier callee _) _ _ => callee == name
  | .call (.member _ (some property) _ _) _ _ => property == name
  | _ => false

def Occurrence.site (o : Occurrence) : CallSite := ⟨o.node.span.startLine, o.caller?⟩

end CodeSurvey.Script

namespace CodeSurvey.References
open Script

def sitesOf (program : Node) (name : String) : List CallSite :=
  (program.occurrences.filter fun o => o.node.isCallOf name).map Occurrence.site

/-! ## Going down and looking out -/

theorem initCaller_eq (caller : Option String) (parent : Node) (d : Declarator Node) :
    initCaller caller d = (Enclosure.scopeName? ⟨parent, some d⟩).or caller := by
  obtain ⟨id, init, s⟩ := d
  cases init with
  | none => cases id <;> rfl
  | some init => cases init <;> cases id <;> rfl

theorem childrenUnder_eq (caller : Option String) (n : Node) :
    childrenUnder caller n = n.enclosed.map fun x => (x.1.scopeName?.or caller, x.2) := by
  cases n with
  | function f =>
    obtain ⟨kind, name, ps, b, e, s⟩ := f
    cases kind <;> simp [childrenUnder, Node.enclosed, Node.children, Enclosure.scopeName?]
  | declaration k ds s =>
    simp only [childrenUnder, Node.enclosed, List.map_flatMap]
    refine List.flatMap_congr fun d _ => ?_
    simp only [declaratorUnder, Declarator.enclosed, initCaller_eq caller (.declaration k ds s),
      List.map_cons, List.map_map]
    rfl
  | _ => simp [childrenUnder, Node.enclosed, Node.children, Enclosure.scopeName?]

theorem callsIn_eq (caller : Option String) (n : Node) :
    callsIn caller n = ownCall caller n ++
      n.enclosed.flatMap fun x => callsIn (x.1.scopeName?.or caller) x.2 := by
  rw [callsIn]
  congr 1
  simp only [List.flatMap_subtype, List.unattach_attach, childrenUnder_eq, List.flatMap_map]

/-- The caller handed down to a node is the name of the nearest scope around it. -/
theorem callsIn_eq_occurrencesIn (around : List Enclosure) (n : Node) :
    callsIn (around.findSome? Enclosure.scopeName?) n =
      (n.occurrencesIn around).flatMap fun o => ownCall o.caller? o.node := by
  induction n using Node.childInduction generalizing around with
  | step n ih =>
    rw [callsIn_eq, Node.occurrencesIn_eq, List.flatMap_cons, List.flatMap_assoc]
    congr 1
    refine List.flatMap_congr fun x hx => ?_
    have hc : x.2 ∈ n.children := Node.enclosed_map_snd n ▸ List.mem_map_of_mem hx
    rw [← ih x.2 hc (x.1 :: around), List.findSome?_cons]
    cases x.1.scopeName? <;> rfl

theorem calleeName?_eq_some {callee : Node} {name : String} {args : List Node} {s : Span} :
    calleeName? callee = some name ↔ (Node.call callee args s).isCallOf name := by
  cases callee with
  | member target property computed s => cases property <;> simp [calleeName?, Node.isCallOf]
  | _ => simp [calleeName?, Node.isCallOf]

theorem ownCall_filter (o : Occurrence) (name : String) :
    ((ownCall o.caller? o.node).filter fun c => c.1 == name).map Prod.snd =
      if o.node.isCallOf name then [o.site] else [] := by
  obtain ⟨around, n⟩ := o
  cases n with
  | call callee args s =>
    rw [ownCall]
    cases hc : calleeName? callee with
    | none =>
      have hn : ¬ (Node.call callee args s).isCallOf name := by
        rw [← calleeName?_eq_some, hc]
        simp
      simp [hn]
    | some callee' =>
      have hn : callee' = name ↔ (Node.call callee args s).isCallOf name := by
        rw [← calleeName?_eq_some, hc, Option.some_inj]
      by_cases h : callee' = name
      · simp [h, hn.1 h, Occurrence.site, Node.span]
      · simp [h, mt hn.2 h]
  | _ => rfl

theorem callsIn_filter (program : Node) (name : String) :
    ((callsIn none program).filter fun c => c.1 == name).map Prod.snd = sitesOf program name := by
  have h := callsIn_eq_occurrencesIn [] program
  rw [List.findSome?_nil] at h
  rw [h, sitesOf, List.filter_flatMap, List.map_flatMap]
  simp only [ownCall_filter]
  rw [Node.occurrences]
  induction program.occurrencesIn [] with
  | nil => rfl
  | cons o os ih =>
    rw [List.flatMap_cons, ih, List.filter_cons]
    split <;> simp

/-! ## Recording -/

theorem foldl_record (sites : List CallSite) (e : CallEdge) :
    sites.foldl (fun e s => e.record s.line s.caller) e =
      ⟨e.totalCalls + sites.length, e.callSites ++ sites⟩ := by
  induction sites generalizing e with
  | nil => simp
  | cons s sites ih =>
    have hcount : e.totalCalls + 1 + sites.length = e.totalCalls + (sites.length + 1) := by omega
    rw [List.foldl_cons, ih]
    simp [CallEdge.record, hcount]

theorem foldl_record_snd (calls : List (String × CallSite)) (e : CallEdge) :
    calls.foldl (fun e c => e.record c.2.line c.2.caller) e =
      ⟨e.totalCalls + calls.length, e.callSites ++ calls.map Prod.snd⟩ := by
  have h := foldl_record (calls.map Prod.snd) e
  rwa [List.foldl_map, List.length_map] at h

theorem filter_known (calls : List (String × CallSite)) (known : List String) (name : String) :
    (calls.filter fun c => known.contains c.1).filter (fun c => c.1 == name) =
      if name ∈ known then calls.filter fun c => c.1 == name else [] := by
  rw [List.filter_filter]
  split
  · refine List.filter_congr fun c _ => ?_
    by_cases h : c.1 = name <;> simp_all
  · refine List.filter_eq_nil_iff.2 fun c _ => ?_
    by_cases h : c.1 = name <;> simp_all

theorem find?_callsInProgram (program : Node) (known : List String) (name : String) :
    (callsInProgram program known).find? name =
      if name ∈ known ∧ sitesOf program name ≠ [] then
        some ⟨(sitesOf program name).length, sitesOf program name⟩
      else none := by
  rw [callsInProgram, recordAll, SortedMap.find?_foldl_update, filter_known,
    SortedMap.find?_empty, ← callsIn_filter]
  by_cases h : name ∈ known
  · simp only [if_pos h, foldl_record_snd]
    by_cases hmine : (callsIn none program).filter (fun c => c.1 == name) = []
    · simp [hmine]
    · simp [hmine, h, default, CallEdge.empty]
  · simp [h]

/-- A known name that is called at all has an edge with exactly the sites of its calls, in
preorder, each with the name of the nearest scope around it; no other name has one. The calls
are looked for among all nodes that lie below one another. -/
theorem callsInProgram_records (program : Node) (known : List String) (name : String) :
    program.occurrences.map Occurrence.node = program.preorder ∧
    (callsInProgram program known).find? name =
      if name ∈ known ∧ sitesOf program name ≠ [] then
        some ⟨(sitesOf program name).length, sitesOf program name⟩
      else none :=
  ⟨program.occurrences_map_node, find?_callsInProgram program known name⟩

end CodeSurvey.References

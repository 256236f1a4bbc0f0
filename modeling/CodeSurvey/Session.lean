import CodeSurvey.Definitions.Extraction
import CodeSurvey.References.Calls
import CodeSurvey.References.Usages

/-!
# Sessions

Definitions gathered piece by piece, with the calls and usages last looked for. What `analyze` does
at one go is done here in steps, in any order and with any text at each.
-/

namespace CodeSurvey
open Definitions References

structure Session where
  defs : List FunctionDef
  vars : List VariableDef
  calls : CallMap
  usages : UsageMap

namespace Session

def empty : Session := ⟨[], [], ∅, ∅⟩

instance : EmptyCollection Session := ⟨empty⟩

inductive Step where
  | addFunctions (defs : List FunctionDef)
  | addVariables (vars : List VariableDef)
  | findCalls (content filename : String)
  | findUsages (content : String)
  /-- A call that was seen elsewhere. -/
  | record (callee : String) (line : Nat) (caller : Option String)
  | applyCalls
  | applyUsages

def Step.extractFunctions (content filename : String) : Step :=
  .addFunctions (Definitions.extractFunctions content filename).items

def Step.extractVariables (content filename : String) : Step :=
  .addVariables (Definitions.extractVariables content filename).items

def step (s : Session) : Step → Session
  | .addFunctions defs => { s with defs := s.defs ++ defs }
  | .addVariables vars => { s with vars := s.vars ++ vars }
  | .findCalls content filename =>
    { s with calls := References.findCalls content filename (s.defs.map FunctionDef.name) }
  | .findUsages content =>
    { s with usages := References.findUsages content (s.vars.map VariableDef.name) }
  | .record callee line caller =>
    { s with calls := s.calls.update callee fun e => e.record line caller }
  | .applyCalls => { s with defs := References.applyCalls s.defs s.calls }
  | .applyUsages => { s with vars := References.applyUsages s.vars s.usages }

def run (s : Session) (steps : List Step) : Session := steps.foldl step s

end Session

end CodeSurvey

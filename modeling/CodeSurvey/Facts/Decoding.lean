import CodeSurvey.Data.JsonFormat
import CodeSurvey.Facts.Encoding

/-!
# Facts from JSON

What `encode` writes is read back. Fields that are left out when they are not known may be missing
or null.
-/

namespace CodeSurvey
open Json

def Record.known (r : Record Json Misfit (Option α → β)) (name : String)
    (read : Json → Except Misfit α) : Record Json Misfit β :=
  r.optional name none (readOption read)

def readCount : Json → Except Misfit Nat := format.count

def readInt32 : Json → Except Misfit Int32 := format.signed32

/-! ## Enumerations -/

def Language.decode : Json → Except Misfit Language := readVariant all name

def Provenance.decode : Json → Except Misfit Provenance := readVariant all name

def FunctionType.decode : Json → Except Misfit FunctionType := readVariant all name

def ReturnType.decode : Json → Except Misfit ReturnType := readVariant all name

def VariableKind.decode : Json → Except Misfit VariableKind := readVariant all name

def ValueType.decode : Json → Except Misfit ValueType := readVariant all name

def Severity.decode : Json → Except Misfit Severity := readVariant all name

def SecurityRule.decode : Json → Except Misfit SecurityRule := readVariant all name

def ComplexityLevel.decode : Json → Except Misfit ComplexityLevel := readVariant all name

/-! ## Records -/

def CallSite.decode : Json → Except Misfit CallSite :=
  readRecord "CallSite" (Record.of CallSite.mk
    |>.required "line" readCount
    |>.known "caller" readText)

def CallEdge.decode : Json → Except Misfit CallEdge :=
  readRecord "CallEdge" (Record.of CallEdge.mk
    |>.required "totalCalls" readCount
    |>.required "callSites" (readList CallSite.decode))

def decodeCalls : Json → Except Misfit CallMap := readMap CallEdge.decode

def UsageEntry.decode : Json → Except Misfit UsageEntry :=
  readRecord "UsageEntry" (Record.of UsageEntry.mk
    |>.required "total" readCount
    |>.required "lines" (readList readCount))

def decodeUsages : Json → Except Misfit UsageMap := readMap UsageEntry.decode

def FunctionDef.decode : Json → Except Misfit FunctionDef :=
  readRecord "FunctionDef" (Record.of FunctionDef.mk
    |>.required "name" readText
    |>.required "file" readText
    |>.required "line" readCount
    |>.required "code" readText
    |>.required "type" FunctionType.decode
    |>.required "isTopLevel" readBoolean
    |>.known "isClassMethod" readBoolean
    |>.required "params" (readList readText)
    |>.required "returnsValue" readBoolean
    |>.required "returnType" ReturnType.decode
    |>.known "totalCalls" readCount
    |>.known "callSites" (readList CallSite.decode)
    |>.required "source" Provenance.decode)

def VariableDef.decode : Json → Except Misfit VariableDef :=
  readRecord "VariableDef" (Record.of VariableDef.mk
    |>.required "name" readText
    |>.required "file" readText
    |>.required "line" readCount
    |>.required "kind" VariableKind.decode
    |>.known "valueType" ValueType.decode
    |>.required "isTopLevel" readBoolean
    |>.known "totalUsages" readCount
    |>.known "usageLines" (readList readCount)
    |>.required "source" Provenance.decode)

def SecurityIssue.decode : Json → Except Misfit SecurityIssue :=
  readRecord "SecurityIssue" (Record.of SecurityIssue.mk
    |>.required "severity" Severity.decode
    |>.required "title" readText
    |>.required "file" readText
    |>.required "path" readText
    |>.required "line" readCount
    |>.required "desc" readText
    |>.required "code" readText)

def ComplexityScore.decode : Json → Except Misfit ComplexityScore :=
  readRecord "ComplexityScore" (Record.of ComplexityScore.mk
    |>.required "score" readInt32
    |>.required "level" ComplexityLevel.decode)

def HealthScore.decode : Json → Except Misfit HealthScore :=
  readRecord "HealthScore" (Record.of HealthScore.mk
    |>.required "score" readInt32
    |>.required "grade" readText
    |>.required "breakdown" (readMap readInt32)
    |>.required "passed" readBoolean
    |>.required "threshold" readInt32)

end CodeSurvey

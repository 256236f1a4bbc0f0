import CodeSurvey.Data.Json
import CodeSurvey.Score

/-!
# Facts as JSON

Each kind of fact as an object with its fields in order. A field that is not known is left out.
-/

namespace CodeSurvey

namespace SortedMap

def encode (f : α → Json) (m : SortedMap α) : Json :=
  .object (m.entries.map fun e => (e.1, f e.2))

end SortedMap

def encodeStrings (texts : List String) : Json := .array (texts.map .string)

def encodeNats (ns : List Nat) : Json := .array (ns.map .ofNat)

def CallSite.encode (s : CallSite) : Json := .object (
  [("line", .ofNat s.line)] ++ Json.optionalField "caller" (s.caller.map .string))

def encodeSites (sites : List CallSite) : Json := .array (sites.map CallSite.encode)

def CallEdge.encode (e : CallEdge) : Json := .object [
  ("totalCalls", .ofNat e.totalCalls), ("callSites", encodeSites e.callSites)]

def encodeCalls (m : CallMap) : Json := m.encode CallEdge.encode

def UsageEntry.encode (e : UsageEntry) : Json := .object [
  ("total", .ofNat e.total), ("lines", encodeNats e.lines)]

def encodeUsages (m : UsageMap) : Json := m.encode UsageEntry.encode

def FunctionDef.encode (d : FunctionDef) : Json := .object (
  [("name", .string d.name), ("file", .string d.file), ("line", .ofNat d.line),
    ("code", .string d.code), ("type", .string d.type.name), ("isTopLevel", .bool d.isTopLevel)] ++
  Json.optionalField "isClassMethod" (d.isClassMethod.map .bool) ++
  [("params", encodeStrings d.params), ("returnsValue", .bool d.returnsValue),
    ("returnType", .string d.returnType.name)] ++
  Json.optionalField "totalCalls" (d.totalCalls.map .ofNat) ++
  Json.optionalField "callSites" (d.callSites.map encodeSites) ++
  [("source", .string d.source.name)])

def VariableDef.encode (v : VariableDef) : Json := .object (
  [("name", .string v.name), ("file", .string v.file), ("line", .ofNat v.line),
    ("kind", .string v.kind.name)] ++
  Json.optionalField "valueType" (v.valueType.map fun t => .string t.name) ++
  [("isTopLevel", .bool v.isTopLevel)] ++
  Json.optionalField "totalUsages" (v.totalUsages.map .ofNat) ++
  Json.optionalField "usageLines" (v.usageLines.map encodeNats) ++
  [("source", .string v.source.name)])

def SecurityIssue.encode (i : SecurityIssue) : Json := .object [
  ("severity", .string i.severity.name), ("title", .string i.title), ("file", .string i.file),
  ("path", .string i.path), ("line", .ofNat i.line), ("desc", .string i.desc),
  ("code", .string i.code)]

def ComplexityThresholds.encode (t : ComplexityThresholds) : Json := .object [
  ("medium", .ofInt32 t.medium), ("high", .ofInt32 t.high)]

def ComplexityScore.encode (c : ComplexityScore) : Json := .object [
  ("score", .ofInt32 c.score), ("level", .string c.level.name)]

def HealthScore.encode (h : HealthScore) : Json := .object [
  ("score", .ofInt32 h.score), ("grade", .string h.grade),
  ("breakdown", h.breakdown.encode .ofInt32), ("passed", .bool h.passed),
  ("threshold", .ofInt32 h.threshold)]

def FileAnalysis.encode (a : FileAnalysis) : Json := .object (
  [("file", .string a.file), ("language", .string a.language.name),
    ("source", .string a.source.name)] ++
  Json.optionalField "parseError" (a.parseError.map fun e => .string e.message) ++
  [("functions", .array (a.functions.map FunctionDef.encode)),
    ("variables", .array (a.vars.map VariableDef.encode)),
    ("imports", encodeStrings a.imports), ("calls", encodeCalls a.calls),
    ("usages", encodeUsages a.usages), ("complexity", a.complexity.encode),
    ("security", .array (a.security.map SecurityIssue.encode))])

end CodeSurvey

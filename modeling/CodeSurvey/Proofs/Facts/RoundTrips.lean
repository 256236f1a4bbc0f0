import CodeSurvey.Config.Basic
import CodeSurvey.Proofs.Data.Codecs

/-!
# Facts that are written and read back

Every kind of fact, the configuration and the score are read back from the JSON that they are
written as, whichever of their fields are known. So what was once read is read again from what it is
written as. Lines and counts are words of 64 bits.
-/

namespace CodeSurvey
open Json

/-! ## Enumerations -/

theorem Provenance.codec : Codec (fun _ => True) (fun p => .string (name p)) decode :=
  .variant (by intro p; cases p <;> decide) (by decide)

theorem FunctionType.codec : Codec (fun _ => True) (fun t => .string (name t)) decode :=
  .variant (by intro t; cases t <;> decide) (by decide)

theorem ReturnType.codec : Codec (fun _ => True) (fun t => .string (name t)) decode :=
  .variant (by intro t; cases t <;> decide) (by decide)

theorem VariableKind.codec : Codec (fun _ => True) (fun k => .string (name k)) decode :=
  .variant (by intro k; cases k <;> decide) (by decide)

theorem ValueType.codec : Codec (fun _ => True) (fun t => .string (name t)) decode :=
  .variant (by intro t; cases t <;> decide) (by decide)

theorem Severity.codec : Codec (fun _ => True) (fun s => .string (name s)) decode :=
  .variant (by intro s; cases s <;> decide) (by decide)

theorem ComplexityLevel.codec : Codec (fun _ => True) (fun l => .string (name l)) decode :=
  .variant (by intro l; cases l <;> decide) (by decide)

/-! ## Calls and uses -/

def CallSite.InWords (s : CallSite) : Prop := IsCount s.line

theorem CallSite.codec : Codec InWords encode decode where
  read_write s hs := by
    have hkeys : ([("line", Json.ofNat s.line)] ++
        optionalField "caller" (s.caller.map .string)).map Prod.fst |>.Nodup := by
      cases s.caller <;> simp [optionalField]
    exact Record.readRecord_object hkeys (Record.Reads.of CallSite.mk
      |>.required .count hs
      |>.known .text fun _ _ => trivial)
  of_read v s h := Record.Yields.of_readRecord h
    (.known .text (.required .count (.of fun _ hline _ _ => hline)))

theorem codec_sites : Codec (fun sites => ∀ s ∈ sites, s.InWords) encodeSites
    (readList CallSite.decode) := .list CallSite.codec

theorem codec_counts : Codec (fun ns => ∀ n ∈ ns, IsCount n) encodeNats (readList readCount) :=
  .list .count

theorem codec_texts : Codec (fun texts : List String => ∀ t ∈ texts, True) encodeStrings
    (readList readText) := .list .text

structure CallEdge.InWords (e : CallEdge) : Prop where
  totalCalls : IsCount e.totalCalls
  callSites : ∀ s ∈ e.callSites, s.InWords

theorem CallEdge.codec : Codec InWords encode decode where
  read_write e he := by
    have hkeys : ["totalCalls", "callSites"].Nodup := by decide
    exact Record.readRecord_object hkeys (Record.Reads.of CallEdge.mk
      |>.required .count he.totalCalls
      |>.required codec_sites he.callSites)
  of_read v e h := Record.Yields.of_readRecord h
    (.required codec_sites (.required .count (.of fun _ htotal _ hsites => ⟨htotal, hsites⟩)))

structure UsageEntry.InWords (e : UsageEntry) : Prop where
  total : IsCount e.total
  lines : ∀ l ∈ e.lines, IsCount l

theorem UsageEntry.codec : Codec InWords encode decode where
  read_write e he := by
    have hkeys : ["total", "lines"].Nodup := by decide
    exact Record.readRecord_object hkeys (Record.Reads.of UsageEntry.mk
      |>.required .count he.total
      |>.required codec_counts he.lines)
  of_read v e h := Record.Yields.of_readRecord h
    (.required codec_counts (.required .count (.of fun _ htotal _ hlines => ⟨htotal, hlines⟩)))

/-! ## Definitions -/

structure FunctionDef.InWords (d : FunctionDef) : Prop where
  line : IsCount d.line
  totalCalls : ∀ n, d.totalCalls = some n → IsCount n
  callSites : ∀ sites, d.callSites = some sites → ∀ s ∈ sites, s.InWords

theorem FunctionDef.codec : Codec InWords encode decode where
  read_write d hd := by
    apply Record.readRecord_object
    · cases d.isClassMethod <;> cases d.totalCalls <;> cases d.callSites <;> simp [optionalField]
    · exact Record.Reads.of FunctionDef.mk
        |>.required .text trivial
        |>.required .text trivial
        |>.required .count hd.line
        |>.required .text trivial
        |>.required FunctionType.codec trivial
        |>.required .boolean trivial
        |>.known .boolean (fun _ _ => trivial)
        |>.required codec_texts (fun _ _ => trivial)
        |>.required .boolean trivial
        |>.required ReturnType.codec trivial
        |>.known .count hd.totalCalls
        |>.known codec_sites hd.callSites
        |>.required Provenance.codec trivial
  of_read v d h := by
    apply Record.Yields.of_readRecord h
    refine .required Provenance.codec (.known codec_sites (.known .count (.required ReturnType.codec
      (.required .boolean (.required codec_texts (.known .boolean (.required .boolean
        (.required FunctionType.codec (.required .text (.required .count (.required .text
          (.required .text (.of ?_)))))))))))))
    intro _ _ _ _ line hline _ _ _ _ _ _ _ _ _ _ _ _ _ _ totalCalls htotal callSites hsites _ _
    exact ⟨hline, htotal, hsites⟩

structure VariableDef.InWords (v : VariableDef) : Prop where
  line : IsCount v.line
  totalUsages : ∀ n, v.totalUsages = some n → IsCount n
  usageLines : ∀ lines, v.usageLines = some lines → ∀ l ∈ lines, IsCount l

theorem VariableDef.codec : Codec InWords encode decode where
  read_write d hd := by
    apply Record.readRecord_object
    · cases d.valueType <;> cases d.totalUsages <;> cases d.usageLines <;> simp [optionalField]
    · exact Record.Reads.of VariableDef.mk
        |>.required .text trivial
        |>.required .text trivial
        |>.required .count hd.line
        |>.required VariableKind.codec trivial
        |>.known ValueType.codec (fun _ _ => trivial)
        |>.required .boolean trivial
        |>.known .count hd.totalUsages
        |>.known codec_counts hd.usageLines
        |>.required Provenance.codec trivial
  of_read v d h := by
    apply Record.Yields.of_readRecord h
    refine .required Provenance.codec (.known codec_counts (.known .count (.required .boolean
      (.known ValueType.codec (.required VariableKind.codec (.required .count (.required .text
        (.required .text (.of ?_)))))))))
    intro _ _ _ _ line hline _ _ _ _ _ _ totalUsages htotal usageLines hlines _ _
    exact ⟨hline, htotal, hlines⟩

/-! ## Findings and scores -/

def SecurityIssue.InWords (i : SecurityIssue) : Prop := IsCount i.line

theorem SecurityIssue.codec : Codec InWords encode decode where
  read_write i hi := by
    have hkeys : ["severity", "title", "file", "path", "line", "desc", "code"].Nodup := by decide
    exact Record.readRecord_object hkeys (Record.Reads.of SecurityIssue.mk
      |>.required Severity.codec trivial
      |>.required .text trivial
      |>.required .text trivial
      |>.required .text trivial
      |>.required .count hi
      |>.required .text trivial
      |>.required .text trivial)
  of_read v i h := by
    apply Record.Yields.of_readRecord h
    refine .required .text (.required .text (.required .count (.required .text (.required .text
      (.required .text (.required Severity.codec (.of ?_)))))))
    intro _ _ _ _ _ _ _ _ line hline _ _ _ _
    exact hline

theorem ComplexityScore.codec : Codec (fun _ => True) encode decode where
  read_write c _ := by
    have hkeys : ["score", "level"].Nodup := by decide
    exact Record.readRecord_object hkeys (Record.Reads.of ComplexityScore.mk
      |>.required .signed32 trivial
      |>.required ComplexityLevel.codec trivial)
  of_read _ _ _ := trivial

theorem HealthScore.codec : Codec (fun _ => True) encode decode where
  read_write h _ := by
    have hkeys : ["score", "grade", "breakdown", "passed", "threshold"].Nodup := by decide
    exact Record.readRecord_object hkeys (Record.Reads.of HealthScore.mk
      |>.required .signed32 trivial
      |>.required .text trivial
      |>.required (.map .signed32) (fun _ _ => trivial)
      |>.required .boolean trivial
      |>.required .signed32 trivial)
  of_read _ _ _ := trivial

/-! ## Configurations -/

theorem ComplexityThresholds.codec : Codec (fun _ => True) encode decode where
  read_write t _ := by
    have hkeys : ["medium", "high"].Nodup := by decide
    exact Record.readRecord_object hkeys (Record.Reads.of ComplexityThresholds.mk
      |>.optional .signed32 trivial
      |>.optional .signed32 trivial)
  of_read _ _ _ := trivial

theorem SecurityConfig.codec : Codec (fun _ => True) encode
    (readRecord "SecurityConfig" (SecurityConfig.record format)) where
  read_write c _ := by
    have hkeys : ["enabled"].Nodup := by decide
    exact Record.readRecord_object hkeys (Record.Reads.of SecurityConfig.mk
      |>.optional .boolean trivial)
  of_read _ _ _ := trivial

theorem Config.codec : Codec (fun _ => True) encode decode where
  read_write c _ := by
    have hkeys : ["version", "excluded_paths", "max_file_bytes", "include_hidden", "complexity",
      "security", "threshold"].Nodup := by decide
    exact Record.readRecord_object hkeys (Record.Reads.of Config.mk
      |>.optional .text trivial
      |>.optional codec_texts (fun _ _ => trivial)
      |>.optional .word64 trivial
      |>.optional .boolean trivial
      |>.optional ComplexityThresholds.codec trivial
      |>.optional SecurityConfig.codec trivial
      |>.optional (.option .word32 nofun) (fun _ _ => trivial))
  of_read _ _ _ := trivial

/-! ## All of them -/

theorem codec_calls : Codec (fun m : CallMap => ∀ e ∈ m.values, e.InWords) encodeCalls
    decodeCalls := .map CallEdge.codec

theorem codec_usages : Codec (fun m : UsageMap => ∀ e ∈ m.values, e.InWords) encodeUsages
    decodeUsages := .map UsageEntry.codec

/-- Each value of a kind is read back from what it is written as; and each that is read at all is of
this kind, so that it is read again from what it is written as. -/
structure ReadBack {α : Type} (P : α → Prop) (write : α → Json) (read : Json → Except Misfit α) :
    Prop where
  undoes : ∀ a, P a → read (write a) = .ok a
  again : ∀ v a, read v = .ok a → P a ∧ read (write a) = .ok a

theorem Codec.readBack {α : Type} {P : α → Prop} {write : α → Json}
    {read : Json → Except Misfit α} (c : Codec P write read) : ReadBack P write read :=
  ⟨c.read_write, fun v a h => ⟨c.of_read v a h, c.read_write a (c.of_read v a h)⟩⟩

/-- Whatever fields are left out, whatever names its variants go by, every fact is read back from
its JSON; counts are those that a word holds. -/
theorem facts_read_back :
    ReadBack FunctionDef.InWords FunctionDef.encode FunctionDef.decode ∧
    ReadBack VariableDef.InWords VariableDef.encode VariableDef.decode ∧
    ReadBack (fun m : CallMap => ∀ e ∈ m.values, e.InWords) encodeCalls decodeCalls ∧
    ReadBack (fun m : UsageMap => ∀ e ∈ m.values, e.InWords) encodeUsages decodeUsages ∧
    ReadBack SecurityIssue.InWords SecurityIssue.encode SecurityIssue.decode ∧
    ReadBack (fun _ => True) ComplexityScore.encode ComplexityScore.decode ∧
    ReadBack (fun _ => True) Config.encode Config.decode ∧
    ReadBack (fun _ => True) HealthScore.encode HealthScore.decode :=
  ⟨FunctionDef.codec.readBack, VariableDef.codec.readBack, codec_calls.readBack,
    codec_usages.readBack, SecurityIssue.codec.readBack, ComplexityScore.codec.readBack,
    Config.codec.readBack, HealthScore.codec.readBack⟩

/-- A variable of which not everything is known, from an object in another order. -/
theorem facts_read_back_variable :
    let v : VariableDef := ⟨"n", "a.js", 3, .let_, some .bigInt, true, none, some [4, 9], .structural⟩
    let written := Json.object [
      ("source", .object [("structural", .null)]), ("usageLines", .array [.number 4, .number 9]),
      ("kind", .string "let"), ("name", .string "n"), ("file", .string "a.js"),
      ("totalUsages", .null), ("line", .number 3), ("isTopLevel", .bool true),
      ("valueType", .string "bigint")]
    VariableDef.decode written = .ok v ∧ v.InWords ∧ VariableDef.decode v.encode = .ok v := by
  intro v written
  have hread : VariableDef.decode written = .ok v := by rfl
  exact ⟨hread, facts_read_back.2.1.again written v hread⟩

end CodeSurvey

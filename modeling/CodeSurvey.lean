import CodeSurvey.Facts.Decoding
import CodeSurvey.Main
import CodeSurvey.Session
import CodeSurvey.Proofs.Consistency
import CodeSurvey.Proofs.Definitions.CodeSlices
import CodeSurvey.Proofs.Definitions.FoundNames
import CodeSurvey.Proofs.Definitions.ProgramDefinitions
import CodeSurvey.Proofs.Files.NormalPaths
import CodeSurvey.Proofs.Files.PathOrder
import CodeSurvey.Proofs.Files.Places
import CodeSurvey.Proofs.Files.Trees
import CodeSurvey.Proofs.Files.Walks
import CodeSurvey.Proofs.JoinedTexts
import CodeSurvey.Proofs.Recounts
import CodeSurvey.Proofs.References.KnownNames
import CodeSurvey.Proofs.References.OwnDeclarations
import CodeSurvey.Proofs.References.OwnDefinitions
import CodeSurvey.Proofs.References.ProgramCalls
import CodeSurvey.Proofs.References.ProgramSites
import CodeSurvey.Proofs.References.TextReferences
import CodeSurvey.Proofs.Score.CheckedScores
import CodeSurvey.Proofs.Score.SummedScores
import CodeSurvey.Proofs.Script.Conformance
import CodeSurvey.Proofs.Script.Derivation
import CodeSurvey.Proofs.Script.ErasedLines
import CodeSurvey.Proofs.Script.KeptItems
import CodeSurvey.Proofs.Script.LostTrees
import CodeSurvey.Proofs.Script.LoweredKinds
import CodeSurvey.Proofs.Script.LoweredSpans
import CodeSurvey.Proofs.Script.LoweredTrees
import CodeSurvey.Proofs.Script.Preservation
import CodeSurvey.Proofs.Script.ReadChildren
import CodeSurvey.Proofs.Script.Recognition
import CodeSurvey.Proofs.Survey.Collecting
import CodeSurvey.Proofs.Survey.Crews
import CodeSurvey.Proofs.Survey.Desks
import CodeSurvey.Proofs.Survey.Outcomes
import CodeSurvey.Proofs.Survey.SteadyFiles
import CodeSurvey.Proofs.Text.ByteOrder
import CodeSurvey.Proofs.Text.Groups
import CodeSurvey.Proofs.Text.Readings
import CodeSurvey.Proofs.Text.Scans
import CodeSurvey.Proofs.Text.Words
import CodeSurvey.Proofs.Report.Summaries
import CodeSurvey.Proofs.Data.Codecs
import CodeSurvey.Proofs.Facts.RoundTrips
import CodeSurvey.Proofs.Script.TreeSearches
import CodeSurvey.Proofs.References.CountedWords
import CodeSurvey.Proofs.Findings.Conditions
import CodeSurvey.Proofs.Script.LoweredLevels
import CodeSurvey.Proofs.WalkDepths
import CodeSurvey.Proofs.Findings.ComplexityScores
import CodeSurvey.Proofs.Findings.RiskyLines
import CodeSurvey.Proofs.Findings.ImportOrder
import CodeSurvey.Proofs.References.KeyedCalls
import CodeSurvey.Proofs.Text.FoundMatches
import CodeSurvey.Proofs.Definitions.DefinitionLines
import CodeSurvey.Proofs.Text.MovedDown
import CodeSurvey.Proofs.BlankLines
import CodeSurvey.Proofs.Findings.ImportSpecs
import CodeSurvey.Proofs.Findings.ImportBlocks
import CodeSurvey.Proofs.References.WholeNames

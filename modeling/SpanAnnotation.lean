import SpanAnnotation.Annotation
import SpanAnnotation.Arena
import SpanAnnotation.AttributeStore
import SpanAnnotation.AttributeTable
import SpanAnnotation.Bio
import SpanAnnotation.Chunker
import SpanAnnotation.Classifier
import SpanAnnotation.Cluster
import SpanAnnotation.Configuration.Basic
import SpanAnnotation.Configuration.Build
import SpanAnnotation.Configuration.Load
import SpanAnnotation.Configuration.Validation
import SpanAnnotation.Coreference
import SpanAnnotation.Decimal
import SpanAnnotation.Dictionary
import SpanAnnotation.Document
import SpanAnnotation.Error
import SpanAnnotation.Evaluation
import SpanAnnotation.Feature.Basic
import SpanAnnotation.Feature.Builtin
import SpanAnnotation.Feature.Registry
import SpanAnnotation.Feature.Value
import SpanAnnotation.Merge
import SpanAnnotation.Pattern
import SpanAnnotation.Pattern.Automaton
import SpanAnnotation.Pattern.ByteRange
import SpanAnnotation.Pattern.CaseFolding
import SpanAnnotation.Pattern.CharSet
import SpanAnnotation.Pattern.Expression
import SpanAnnotation.Pattern.Form
import SpanAnnotation.Pattern.LiteralTree
import SpanAnnotation.Pattern.Property
import SpanAnnotation.Pattern.Property.Age
import SpanAnnotation.Pattern.Property.AgeTables
import SpanAnnotation.Pattern.Property.Break
import SpanAnnotation.Pattern.Property.Category
import SpanAnnotation.Pattern.Property.CategoryTables
import SpanAnnotation.Pattern.Property.Script
import SpanAnnotation.Pattern.Property.ScriptExtensions
import SpanAnnotation.Pattern.Property.ScriptTables
import SpanAnnotation.Pattern.Property.Trait
import SpanAnnotation.Pattern.Property.TraitTables
import SpanAnnotation.Pattern.Scan
import SpanAnnotation.Pattern.SlotTable
import SpanAnnotation.Pipeline
import SpanAnnotation.Proofs.AllOrNothing
import SpanAnnotation.Proofs.AntecedentChoice
import SpanAnnotation.Proofs.Chunking
import SpanAnnotation.Proofs.CoreferencePass
import SpanAnnotation.Proofs.EventLog
import SpanAnnotation.Proofs.Evolution
import SpanAnnotation.Proofs.FeatureExtraction
import SpanAnnotation.Proofs.History
import SpanAnnotation.Proofs.Identity
import SpanAnnotation.Proofs.JsonText
import SpanAnnotation.Proofs.Merging
import SpanAnnotation.Proofs.NearestAntecedent
import SpanAnnotation.Proofs.NumberText
import SpanAnnotation.Proofs.Operations
import SpanAnnotation.Proofs.Outcome
import SpanAnnotation.Proofs.Reloading
import SpanAnnotation.Proofs.Removal
import SpanAnnotation.Proofs.SpanRules
import SpanAnnotation.Proofs.StringText
import SpanAnnotation.Proofs.TextOrder
import SpanAnnotation.Repetition
import SpanAnnotation.Sentence
import SpanAnnotation.Service
import SpanAnnotation.Text.Alphanumeric
import SpanAnnotation.Text.Blank
import SpanAnnotation.Text.CaseTables
import SpanAnnotation.Text.Lowercase
import SpanAnnotation.Text.Ranges
import SpanAnnotation.Text.SentenceBreak
import SpanAnnotation.Text.SentenceBreakTables
import SpanAnnotation.Token
import SpanAnnotation.Wire.Configuration
import SpanAnnotation.Wire.Document
import SpanAnnotation.Wire.Json
import SpanAnnotation.Wire.JsonText
import SpanAnnotation.Wire.Model
import SpanAnnotation.Wire.Number
import SpanAnnotation.Wire.Report
import SpanAnnotation.Wire.Toml
import SpanAnnotation.Wire.Toml.Scalar
import SpanAnnotation.Wire.Toml.Table
import SpanAnnotation.Wire.Value
import SpanAnnotation.Proofs.Portability
import SpanAnnotation.Proofs.Origins
import SpanAnnotation.Proofs.FeatureLocality
import SpanAnnotation.Proofs.LeftToRight
import SpanAnnotation.Proofs.Composition
import SpanAnnotation.Proofs.MergedSpans
import SpanAnnotation.Proofs.Proposals
import SpanAnnotation.Proofs.Construction
import SpanAnnotation.Proofs.Acceptance
import SpanAnnotation.Proofs.StableColumns
import SpanAnnotation.Proofs.Admission
import SpanAnnotation.Proofs.DocumentErrors
import SpanAnnotation.Proofs.Recovery
import SpanAnnotation.Proofs.StoredClusters
import SpanAnnotation.Proofs.Dependencies
import SpanAnnotation.Proofs.FeatureSelection
import SpanAnnotation.Proofs.WellFormedness
import SpanAnnotation.Proofs.FeatureColumns
import SpanAnnotation.Proofs.DictionaryMatches
import SpanAnnotation.Proofs.ChunkerMeaning
import SpanAnnotation.Proofs.DictionaryTables
import SpanAnnotation.Proofs.SpanMatching
import SpanAnnotation.Proofs.ComparedPairs
import SpanAnnotation.Proofs.EvaluationCounts
import SpanAnnotation.Proofs.Tagging
import SpanAnnotation.Proofs.TagReading
import SpanAnnotation.Proofs.CoveredRuns
import SpanAnnotation.Proofs.ClosestMember
import SpanAnnotation.Proofs.ConflictChains
import SpanAnnotation.Proofs.TokenDistance
import SpanAnnotation.Proofs.TaggedColumns
import SpanAnnotation.Proofs.CategoryLabels
import SpanAnnotation.Proofs.TextCuts
import SpanAnnotation.Proofs.TextDocuments
import SpanAnnotation.Proofs.PlacedProposals
import SpanAnnotation.Proofs.Rollback
import SpanAnnotation.Proofs.SummaryFigures
import SpanAnnotation.Proofs.WeightColumns
import SpanAnnotation.Proofs.DocumentAccounts
import SpanAnnotation.Proofs.CompositionLaws
import SpanAnnotation.Proofs.LeastDistance
import SpanAnnotation.Proofs.SpacedWords
import SpanAnnotation.Proofs.PhraseOccurrences
import SpanAnnotation.Proofs.LastIdentity
import SpanAnnotation.Proofs.TokenBoundaries
import SpanAnnotation.Proofs.DictionaryFiles
import SpanAnnotation.Proofs.PatternFrames
import SpanAnnotation.Proofs.PatternParts
import SpanAnnotation.Proofs.PatternSets
import SpanAnnotation.Proofs.PatternCounts
import SpanAnnotation.Proofs.PatternGroups
import SpanAnnotation.Proofs.WholePatterns
import SpanAnnotation.Proofs.PatternMeaning
import SpanAnnotation.Proofs.WholeCategories
import SpanAnnotation.Proofs.DependencyOrder
import SpanAnnotation.Proofs.SmallForms
import SpanAnnotation.Proofs.CaseSwitches
import SpanAnnotation.Proofs.SubmittedDocuments
import SpanAnnotation.Proofs.MemberOrder
import SpanAnnotation.Proofs.ReportsReadBack
import SpanAnnotation.Proofs.ConfigurationsReadBack
import SpanAnnotation.Proofs.OrderedViews
import SpanAnnotation.Proofs.StoredTables
import SpanAnnotation.Proofs.OrderlyReading

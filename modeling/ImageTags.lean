import ImageTags.Builtin
import ImageTags.Calendar.Date
import ImageTags.Calendar.Format
import ImageTags.Calendar.Instant
import ImageTags.Calendar.Timestamp
import ImageTags.Calendar.Zone
import ImageTags.Calendar.ZoneTable
import ImageTags.CommandLine.Arguments
import ImageTags.CommandLine.Generate
import ImageTags.CommandLine.Listing
import ImageTags.CommandLine.Options
import ImageTags.CommandLine.Parameter
import ImageTags.CommandLine.Program
import ImageTags.Dictionary
import ImageTags.Directive
import ImageTags.Event.Context
import ImageTags.Event.Payload
import ImageTags.Event.Repository
import ImageTags.Failure
import ImageTags.FileTree
import ImageTags.Flavor
import ImageTags.Image
import ImageTags.Json.Basic
import ImageTags.Json.Decode
import ImageTags.Json.Printer
import ImageTags.Json.Reader
import ImageTags.Label
import ImageTags.Metadata
import ImageTags.Numeral
import ImageTags.Outputs
import ImageTags.Pattern.CharSet
import ImageTags.Pattern.Engine
import ImageTags.Pattern.Expr
import ImageTags.Pattern.Literal
import ImageTags.Pattern.Matcher
import ImageTags.Pattern.Program
import ImageTags.Pattern.Property
import ImageTags.Pattern.Reader
import ImageTags.Pattern.Search
import ImageTags.Projection
import ImageTags.Record
import ImageTags.Resolve
import ImageTags.Rule.Basic
import ImageTags.Rule.Kind
import ImageTags.Rule.Order
import ImageTags.Rule.Reader
import ImageTags.Selection
import ImageTags.StepOutput
import ImageTags.TagName
import ImageTags.Template.EventScope
import ImageTags.Template.Expression
import ImageTags.Template.Render
import ImageTags.Text.Blank
import ImageTags.Text.Lines
import ImageTags.Text.LowerCase
import ImageTags.Text.Split
import ImageTags.Unicode.Alphabetic
import ImageTags.Unicode.CaseFolding
import ImageTags.Unicode.CaseMapping
import ImageTags.Unicode.CaseRun
import ImageTags.Unicode.Casing
import ImageTags.Unicode.CharTable
import ImageTags.Unicode.GeneralCategory
import ImageTags.Unicode.Script
import ImageTags.Version.Pep440
import ImageTags.Version.Reading
import ImageTags.Version.Semver
import ImageTags.Main
import ImageTags.Proofs.Ascii
import ImageTags.Proofs.BlockLines
import ImageTags.Proofs.CalendarDates
import ImageTags.Proofs.CanonicalVersion
import ImageTags.Proofs.CleanNames
import ImageTags.Proofs.ClockIndependence
import ImageTags.Proofs.CompactDates
import ImageTags.Proofs.DateExpressions
import ImageTags.Proofs.DateSegments
import ImageTags.Proofs.Dictionaries
import ImageTags.Proofs.DirectiveLines
import ImageTags.Proofs.DisqualifiedRules
import ImageTags.Proofs.Documents
import ImageTags.Proofs.FieldOrder
import ImageTags.Proofs.FileChanges
import ImageTags.Proofs.FlavorFields
import ImageTags.Proofs.ImageNames
import ImageTags.Proofs.JsonReading
import ImageTags.Proofs.LabelLines
import ImageTags.Proofs.LineEnds
import ImageTags.Proofs.LowerCase
import ImageTags.Proofs.NormalVersion
import ImageTags.Proofs.Offers
import ImageTags.Proofs.PaddedNumerals
import ImageTags.Proofs.PatternLiterals
import ImageTags.Proofs.PriorityOrder
import ImageTags.Proofs.QualifiedTags
import ImageTags.Proofs.RecordLayout
import ImageTags.Proofs.Records
import ImageTags.Proofs.RefKinds
import ImageTags.Proofs.RuleApplicability
import ImageTags.Proofs.RuleEntries
import ImageTags.Proofs.RuleFailures
import ImageTags.Proofs.RuleFields
import ImageTags.Proofs.RuleListing
import ImageTags.Proofs.RuleReordering
import ImageTags.Proofs.RuleText
import ImageTags.Proofs.RunEffects
import ImageTags.Proofs.RunLabels
import ImageTags.Proofs.SemanticVersions
import ImageTags.Proofs.SpellingReading
import ImageTags.Proofs.StepOutputReading
import ImageTags.Proofs.Steps
import ImageTags.Proofs.TagNames
import ImageTags.Proofs.TemplateCuts
import ImageTags.Proofs.TemplateWords
import ImageTags.Proofs.TimestampReading
import ImageTags.Proofs.TokenWidths
import ImageTags.Proofs.Trim
import ImageTags.Proofs.UnstableTags
import ImageTags.Proofs.VersionDialects
import ImageTags.Proofs.VersionLayout
import ImageTags.Proofs.VersionNumbers
import ImageTags.Proofs.VersionOutputs
import ImageTags.Proofs.VersionParts
import ImageTags.Proofs.VersionPattern
import ImageTags.Proofs.VersionSpelling
import ImageTags.Proofs.VersionValues
import ImageTags.Proofs.Ways
import ImageTags.Proofs.WaysRead

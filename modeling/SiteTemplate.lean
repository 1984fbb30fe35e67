import SiteTemplate.ClassToken
import SiteTemplate.Codec
import SiteTemplate.CommandLine.Arguments
import SiteTemplate.CommandLine.Run
import SiteTemplate.Console.Printer
import SiteTemplate.Console.Progress
import SiteTemplate.Console.Report
import SiteTemplate.ContentModel
import SiteTemplate.Entries
import SiteTemplate.Json.Basic
import SiteTemplate.Json.Reader
import SiteTemplate.Json.Writer
import SiteTemplate.Main
import SiteTemplate.Number.Binary64
import SiteTemplate.Number.Decimal
import SiteTemplate.Number.Numeral
import SiteTemplate.Pattern.Basic
import SiteTemplate.Pattern.Reader
import SiteTemplate.Placeholder.Form
import SiteTemplate.Placeholder.Markup
import SiteTemplate.Placeholder.Segment
import SiteTemplate.Project.Basic
import SiteTemplate.Project.Failure
import SiteTemplate.Project.Processor
import SiteTemplate.Prompt
import SiteTemplate.Proofs.AcceptedAnswers
import SiteTemplate.Proofs.AcceptedOverrides
import SiteTemplate.Proofs.AttributeValues
import SiteTemplate.Proofs.AuthoredText
import SiteTemplate.Proofs.BinaryFiles
import SiteTemplate.Proofs.ClassConflicts
import SiteTemplate.Proofs.ColorNames
import SiteTemplate.Proofs.CommandRuns
import SiteTemplate.Proofs.CompleteThemes
import SiteTemplate.Proofs.Completions
import SiteTemplate.Proofs.Declarations
import SiteTemplate.Proofs.EnclosingTags
import SiteTemplate.Proofs.ExchangeForms
import SiteTemplate.Proofs.ExchangedClasses
import SiteTemplate.Proofs.ExchangedGroups
import SiteTemplate.Proofs.FallbackClasses
import SiteTemplate.Proofs.FieldConformance
import SiteTemplate.Proofs.FieldIsolation
import SiteTemplate.Proofs.FileByFile
import SiteTemplate.Proofs.FloatText
import SiteTemplate.Proofs.ImageAddresses
import SiteTemplate.Proofs.ImportLines
import SiteTemplate.Proofs.ImportStatements
import SiteTemplate.Proofs.JsonText
import SiteTemplate.Proofs.KeptClasses
import SiteTemplate.Proofs.LeftoverCounts
import SiteTemplate.Proofs.LengthLimits
import SiteTemplate.Proofs.LetterCase
import SiteTemplate.Proofs.MarkupForest
import SiteTemplate.Proofs.MergedClasses
import SiteTemplate.Proofs.ModelAnswers
import SiteTemplate.Proofs.NumberText
import SiteTemplate.Proofs.OutlineAgreement
import SiteTemplate.Proofs.Overlays
import SiteTemplate.Proofs.PathWalks
import SiteTemplate.Proofs.PermittedValues
import SiteTemplate.Proofs.Pieces
import SiteTemplate.Proofs.ReadNumbers
import SiteTemplate.Proofs.RecordReading
import SiteTemplate.Proofs.Refusals
import SiteTemplate.Proofs.RegistryRuns
import SiteTemplate.Proofs.Rendering
import SiteTemplate.Proofs.RoundTrip
import SiteTemplate.Proofs.RoundingError
import SiteTemplate.Proofs.RoundingOrder
import SiteTemplate.Proofs.RuleIsolation
import SiteTemplate.Proofs.RuleScores
import SiteTemplate.Proofs.RunningMarkup
import SiteTemplate.Proofs.SavedValues
import SiteTemplate.Proofs.ScanSteps
import SiteTemplate.Proofs.Scanning
import SiteTemplate.Proofs.Seams
import SiteTemplate.Proofs.Segments
import SiteTemplate.Proofs.SettingsFiles
import SiteTemplate.Proofs.ShortestDecimal
import SiteTemplate.Proofs.SkippedOverrides
import SiteTemplate.Proofs.SlotAgreement
import SiteTemplate.Proofs.SlotText
import SiteTemplate.Proofs.StepChains
import SiteTemplate.Proofs.Stylesheets
import SiteTemplate.Proofs.TagAttributes
import SiteTemplate.Proofs.TagScan
import SiteTemplate.Proofs.TagStates
import SiteTemplate.Proofs.TemplateReading
import SiteTemplate.Proofs.ThemeChoice
import SiteTemplate.Proofs.ThemeMerging
import SiteTemplate.Proofs.TokenParts
import SiteTemplate.Proofs.TokenText
import SiteTemplate.Proofs.Traversal
import SiteTemplate.Proofs.UsedImports
import SiteTemplate.Proofs.ValidationByFile
import SiteTemplate.Proofs.WrittenForm
import SiteTemplate.Proofs.WrittenRecords
import SiteTemplate.Record
import SiteTemplate.Resolve.Fallback
import SiteTemplate.Resolve.Resolver
import SiteTemplate.Settings
import SiteTemplate.Slot.Check
import SiteTemplate.Slot.Fill
import SiteTemplate.Template.Basic
import SiteTemplate.Template.Constraints
import SiteTemplate.Template.Field
import SiteTemplate.Text.CaseTable
import SiteTemplate.Text.CharacterTables
import SiteTemplate.Text.Characters
import SiteTemplate.Text.Strings
import SiteTemplate.Theme.Basic
import SiteTemplate.Theme.Builtin
import SiteTemplate.Theme.Customization
import SiteTemplate.Theme.Registry
import SiteTemplate.Theme.Reskin
import SiteTemplate.UserData
import SiteTemplate.Validation.CodeQuality
import SiteTemplate.Validation.MarkupRules
import SiteTemplate.Validation.Rule
import SiteTemplate.Validation.RuleSet

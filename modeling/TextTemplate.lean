import TextTemplate.Artifact
import TextTemplate.ArtifactCache
import TextTemplate.Binary64
import TextTemplate.CacheKey
import TextTemplate.Calendar.CommonLocales
import TextTemplate.Calendar.Date
import TextTemplate.Calendar.Format
import TextTemplate.Calendar.Locale
import TextTemplate.Calendar.Pattern
import TextTemplate.Calendar.Reader
import TextTemplate.Decimal
import TextTemplate.Decimal.Format
import TextTemplate.Decimal.Shortest
import TextTemplate.Engine
import TextTemplate.Hash.Sip
import TextTemplate.Helper
import TextTemplate.Helper.Date
import TextTemplate.Helper.Table
import TextTemplate.Helper.Truncate
import TextTemplate.Html
import TextTemplate.Keyed
import TextTemplate.Lru
import TextTemplate.Names
import TextTemplate.Partial.Directory
import TextTemplate.Partial.DiskPath
import TextTemplate.Partial.Registry
import TextTemplate.Program
import TextTemplate.Program.Listing
import TextTemplate.Program.Lowering
import TextTemplate.Render
import TextTemplate.RenderError
import TextTemplate.Scope
import TextTemplate.Template
import TextTemplate.Template.ParseError
import TextTemplate.Template.Parser
import TextTemplate.Template.Tag
import TextTemplate.Text.Quoted
import TextTemplate.Token
import TextTemplate.Token.Lexer
import TextTemplate.Unicode.Blank
import TextTemplate.Unicode.Case
import TextTemplate.Unicode.CaseTable
import TextTemplate.Unicode.Printing
import TextTemplate.Unicode.Range
import TextTemplate.Value
import TextTemplate.Value.Datum
import TextTemplate.Proofs.Agreement
import TextTemplate.Proofs.Answers
import TextTemplate.Proofs.BareNames
import TextTemplate.Proofs.BindingNames
import TextTemplate.Proofs.CacheTransparency
import TextTemplate.Proofs.Coherence
import TextTemplate.Proofs.Concatenation
import TextTemplate.Proofs.Confinement
import TextTemplate.Proofs.ContextKeys
import TextTemplate.Proofs.DateReading
import TextTemplate.Proofs.DepthCut
import TextTemplate.Proofs.DepthLimit
import TextTemplate.Proofs.DirectoryTrees
import TextTemplate.Proofs.DiskPaths
import TextTemplate.Proofs.DottedNames
import TextTemplate.Proofs.ErrorPosition
import TextTemplate.Proofs.Grammar
import TextTemplate.Proofs.Guards
import TextTemplate.Proofs.HelperAgreement
import TextTemplate.Proofs.HelperNames
import TextTemplate.Proofs.HelperTables
import TextTemplate.Proofs.History
import TextTemplate.Proofs.Inlining
import TextTemplate.Proofs.IntegerKeys
import TextTemplate.Proofs.Interpretation
import TextTemplate.Proofs.JsonText
import TextTemplate.Proofs.KeyPreimage
import TextTemplate.Proofs.LargerCache
import TextTemplate.Proofs.Layout
import TextTemplate.Proofs.Legible
import TextTemplate.Proofs.ListingText
import TextTemplate.Proofs.Listings
import TextTemplate.Proofs.Lookahead
import TextTemplate.Proofs.Lookups
import TextTemplate.Proofs.Lowering
import TextTemplate.Proofs.PartialFiles
import TextTemplate.Proofs.Paths
import TextTemplate.Proofs.PlainRenderings
import TextTemplate.Proofs.PlainValues
import TextTemplate.Proofs.Positions
import TextTemplate.Proofs.Record
import TextTemplate.Proofs.Refusals
import TextTemplate.Proofs.Registration
import TextTemplate.Proofs.Retention
import TextTemplate.Proofs.SegmentationReading
import TextTemplate.Proofs.SessionSteps
import TextTemplate.Proofs.Simulation
import TextTemplate.Proofs.SpelledNames
import TextTemplate.Proofs.Survey
import TextTemplate.Proofs.TagReading
import TextTemplate.Proofs.TemplateReading
import TextTemplate.Proofs.Truncation
import TextTemplate.Proofs.Unescaping
import TextTemplate.Proofs.WhiteSpace

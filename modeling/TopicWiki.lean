import TopicWiki.Config.Setting
import TopicWiki.Config.Yaml.BlockScalar
import TopicWiki.Config.Yaml.Cursor
import TopicWiki.Config.Yaml.Document
import TopicWiki.Config.Yaml.Gap
import TopicWiki.Config.Yaml.Layout
import TopicWiki.Config.Yaml.Node
import TopicWiki.Config.Yaml.Plain
import TopicWiki.Config.Yaml.Quoted
import TopicWiki.Config.Yaml.Scalar
import TopicWiki.Config.Yaml.Tag
import TopicWiki.Config.Yaml.Token
import TopicWiki.Content.Document
import TopicWiki.Content.Policy
import TopicWiki.Content.Store
import TopicWiki.Decimal.Shortest
import TopicWiki.Dictionary
import TopicWiki.Element
import TopicWiki.Error
import TopicWiki.Extension.Basic
import TopicWiki.Extension.Callable
import TopicWiki.Extension.Catalog
import TopicWiki.Extension.Filters
import TopicWiki.Extension.Links
import TopicWiki.Json.Basic
import TopicWiki.Json.Reader
import TopicWiki.Json.Token
import TopicWiki.Json.Writer
import TopicWiki.Link.Icon
import TopicWiki.Link.Statement
import TopicWiki.Markdown.Block
import TopicWiki.Markdown.Character
import TopicWiki.Markdown.Container
import TopicWiki.Markdown.Document
import TopicWiki.Markdown.Emphasis
import TopicWiki.Markdown.Entity
import TopicWiki.Markdown.Flavor
import TopicWiki.Markdown.Heading
import TopicWiki.Markdown.Inline
import TopicWiki.Markdown.Line
import TopicWiki.Markdown.Punctuation
import TopicWiki.Markdown.Reference
import TopicWiki.Markdown.Table
import TopicWiki.Markdown.Tag
import TopicWiki.Markdown.Tree
import TopicWiki.Markdown.Writer
import TopicWiki.Markup.Blank
import TopicWiki.Markup.Stages
import TopicWiki.Markup.Tagged
import TopicWiki.Name
import TopicWiki.Proofs.Element.AttributeChanges
import TopicWiki.Proofs.Element.StartTag
import TopicWiki.Proofs.Extension.Arity
import TopicWiki.Proofs.Extension.Builtin
import TopicWiki.Proofs.Extension.Installation
import TopicWiki.Proofs.Extension.LinkGating
import TopicWiki.Proofs.Extension.LinkPrinting
import TopicWiki.Proofs.Extension.SafetyMarking
import TopicWiki.Proofs.Extension.Serving
import TopicWiki.Proofs.Link.IconSegments
import TopicWiki.Proofs.Link.RoundTrip
import TopicWiki.Proofs.Link.Scan
import TopicWiki.Proofs.Link.StrictOrder
import TopicWiki.Proofs.Markup.ConvertedHtml
import TopicWiki.Proofs.Markup.LeadingBlanks
import TopicWiki.Proofs.Markup.TaggedScan
import TopicWiki.Proofs.Name
import TopicWiki.Proofs.Outcome
import TopicWiki.Proofs.Template.BlockMatching
import TopicWiki.Proofs.Template.Blocks
import TopicWiki.Proofs.Template.Calls
import TopicWiki.Proofs.Template.Evaluation
import TopicWiki.Proofs.Template.Execution
import TopicWiki.Proofs.Template.Expansion
import TopicWiki.Proofs.Template.OuterDashes
import TopicWiki.Proofs.Template.Regions
import TopicWiki.Proofs.Template.Scan
import TopicWiki.Proofs.Template.Seam
import TopicWiki.Proofs.Template.Showing
import TopicWiki.Proofs.Template.StatementForm
import TopicWiki.Proofs.Template.StatementPlaces
import TopicWiki.Proofs.Template.Switch.AlikeBranches
import TopicWiki.Proofs.Template.Switch.Branches
import TopicWiki.Proofs.Template.Switch.CaseValues
import TopicWiki.Proofs.Template.Switch.Dashes
import TopicWiki.Proofs.Template.Switch.Depth
import TopicWiki.Proofs.Template.Switch.Marks
import TopicWiki.Proofs.Template.Switch.Meaning
import TopicWiki.Proofs.Template.Switch.Parts
import TopicWiki.Proofs.Template.Switch.RegionKeeping
import TopicWiki.Proofs.Template.Switch.Removal
import TopicWiki.Proofs.Template.Switch.Retrimming
import TopicWiki.Proofs.Template.Switch.Words
import TopicWiki.Proofs.Text.Escaping
import TopicWiki.Proofs.Text.Filling
import TopicWiki.Proofs.Text.FirstOccurrence
import TopicWiki.Proofs.Text.Lines
import TopicWiki.Proofs.Text.Markers
import TopicWiki.Proofs.Text.Order
import TopicWiki.Proofs.Text.Replacement
import TopicWiki.Proofs.Text.Trim
import TopicWiki.Proofs.Textile.AttributeValues
import TopicWiki.Proofs.Textile.Attributes
import TopicWiki.Proofs.Textile.Blocks
import TopicWiki.Proofs.Textile.CodeSpans
import TopicWiki.Proofs.Textile.EmbeddedMarkup
import TopicWiki.Proofs.Textile.InertAttributes
import TopicWiki.Proofs.Textile.ListPlaces
import TopicWiki.Proofs.Textile.ListStructure
import TopicWiki.Proofs.Textile.Nesting
import TopicWiki.Proofs.Textile.PhraseReading
import TopicWiki.Proofs.Textile.Phrases
import TopicWiki.Proofs.Textile.ProperNesting
import TopicWiki.Proofs.Textile.Prose
import TopicWiki.Proofs.Textile.References
import TopicWiki.Proofs.Textile.Slots
import TopicWiki.Proofs.Textile.TagOrder
import TopicWiki.Proofs.Textile.Tags
import TopicWiki.Proofs.Wiki.Agreement
import TopicWiki.Proofs.Wiki.Assembly
import TopicWiki.Proofs.Wiki.ContextVariables
import TopicWiki.Proofs.Wiki.Dialogue
import TopicWiki.Proofs.Wiki.ErrorSurfacing
import TopicWiki.Proofs.Wiki.ExtensionTable
import TopicWiki.Proofs.Wiki.Filing
import TopicWiki.Proofs.Wiki.History
import TopicWiki.Proofs.Wiki.IncludeSources
import TopicWiki.Proofs.Wiki.Keeping
import TopicWiki.Proofs.Wiki.OutputCache
import TopicWiki.Proofs.Wiki.ParentBinding
import TopicWiki.Proofs.Wiki.Placeholders
import TopicWiki.Proofs.Wiki.RenderChain
import TopicWiki.Proofs.Wiki.Renders
import TopicWiki.Proofs.Wiki.Sheltered
import TopicWiki.Proofs.Wiki.Undisturbed
import TopicWiki.Template.Evaluator
import TopicWiki.Template.Lexer
import TopicWiki.Template.Literal
import TopicWiki.Template.Node
import TopicWiki.Template.Reader
import TopicWiki.Template.Statement
import TopicWiki.Template.Switch
import TopicWiki.Template.Tag
import TopicWiki.Template.Transform
import TopicWiki.Template.View
import TopicWiki.Text.Blank
import TopicWiki.Text.CaseFold
import TopicWiki.Text.Digit
import TopicWiki.Text.Entity
import TopicWiki.Text.Lines
import TopicWiki.Text.Occurrence
import TopicWiki.Text.Printable
import TopicWiki.Textile.Block
import TopicWiki.Textile.Document
import TopicWiki.Textile.Inline
import TopicWiki.Textile.Listing
import TopicWiki.Textile.Phrase
import TopicWiki.Textile.Reference
import TopicWiki.Textile.Segment
import TopicWiki.Textile.Table
import TopicWiki.Value
import TopicWiki.Value.Json
import TopicWiki.Value.Printing
import TopicWiki.Wiki.Assembly
import TopicWiki.Wiki.Cache
import TopicWiki.Wiki.Config
import TopicWiki.Wiki.Context
import TopicWiki.Wiki.Controller
import TopicWiki.Wiki.Engine
import TopicWiki.Wiki.Renderer
import TopicWiki.Wiki.SelfReference
import TopicWiki.Wiki.Site
import TopicWiki.Wiki.State

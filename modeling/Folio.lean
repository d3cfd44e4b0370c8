import Folio.CommandLine
import Folio.Config.Config
import Folio.Config.ConfigFile
import Folio.Config.Datum
import Folio.Config.JsonText
import Folio.Config.Toml.Document
import Folio.Config.Toml.Scalar
import Folio.Config.Toml.Tree
import Folio.Decimal
import Folio.Digest
import Folio.Excerpt
import Folio.Files.FileStore
import Folio.Files.PathName
import Folio.Main
import Folio.Markup.Arena
import Folio.Markup.Construction.Adoption
import Folio.Markup.Construction.Body
import Folio.Markup.Construction.Foreign
import Folio.Markup.Construction.Page
import Folio.Markup.Construction.State
import Folio.Markup.Construction.Table
import Folio.Markup.Escape
import Folio.Markup.NamedCharacter
import Folio.Markup.Node
import Folio.Markup.Printer
import Folio.Markup.Reference
import Folio.Markup.Token
import Folio.Markup.TreePath
import Folio.Notice
import Folio.Page.Anchor
import Folio.Page.CodeBlock
import Folio.Page.Document
import Folio.Page.Embed
import Folio.Page.FullText
import Folio.Page.Highlight
import Folio.Page.Image
import Folio.Page.Link
import Folio.Page.Outline
import Folio.Page.Permalink
import Folio.Page.Renderer
import Folio.Page.SearchRecord
import Folio.Proofs.Config.ConfiguredVariable
import Folio.Proofs.Config.FileContent
import Folio.Proofs.Config.InPlace
import Folio.Proofs.Config.LanguageOrder
import Folio.Proofs.Config.Layer
import Folio.Proofs.Config.Setting
import Folio.Proofs.Excerpt
import Folio.Proofs.Files.FileStore
import Folio.Proofs.Files.Replay
import Folio.Proofs.ForeignMarker
import Folio.Proofs.Markup.ArenaChange
import Folio.Proofs.Markup.AttributeErasure
import Folio.Proofs.Markup.ListedPlace
import Folio.Proofs.Markup.OutermostReplacement
import Folio.Proofs.Markup.Place
import Folio.Proofs.Markup.Printing
import Folio.Proofs.Markup.RawText
import Folio.Proofs.Markup.ReadBack
import Folio.Proofs.Markup.Remainder
import Folio.Proofs.Markup.Settled.Adoption
import Folio.Proofs.Markup.Settled.Body
import Folio.Proofs.Markup.Settled.Page
import Folio.Proofs.Markup.Settled.Reading
import Folio.Proofs.Markup.Settled.State
import Folio.Proofs.Markup.Settled.Table
import Folio.Proofs.Markup.Settled.Text
import Folio.Proofs.Markup.StrippedPrint
import Folio.Proofs.Markup.Substitution
import Folio.Proofs.Markup.TextElement
import Folio.Proofs.Markup.TextRun
import Folio.Proofs.Markup.Unescape
import Folio.Proofs.Page.AnchorAssignment
import Folio.Proofs.Page.AnchorGrowth
import Folio.Proofs.Page.AnchorScope
import Folio.Proofs.Page.AnchorStability
import Folio.Proofs.Page.CalloutLabel
import Folio.Proofs.Page.CaptionRecord
import Folio.Proofs.Page.CodeDirective
import Folio.Proofs.Page.EscapeCompletion
import Folio.Proofs.Page.EscapedCode
import Folio.Proofs.Page.ExampleCode
import Folio.Proofs.Page.FailedEmbed
import Folio.Proofs.Page.FullTextCover
import Folio.Proofs.Page.FullTextPath
import Folio.Proofs.Page.GrowingPage
import Folio.Proofs.Page.HeadingWord
import Folio.Proofs.Page.HiddenCode
import Folio.Proofs.Page.IdRegistry
import Folio.Proofs.Page.ImageBatch
import Folio.Proofs.Page.IndexingSwitch
import Folio.Proofs.Page.Mirror
import Folio.Proofs.Page.MirrorPlace
import Folio.Proofs.Page.OutlineRecord
import Folio.Proofs.Page.OwnIdentifier
import Folio.Proofs.Page.Pass
import Folio.Proofs.Page.Permalink
import Folio.Proofs.Page.PrintedText
import Folio.Proofs.Page.PublishedIdentifier
import Folio.Proofs.Page.PublishedLink
import Folio.Proofs.Page.RecordPlace
import Folio.Proofs.Page.RegistryRun
import Folio.Proofs.Page.SearchHit
import Folio.Proofs.Page.SideOutput
import Folio.Proofs.Page.SourceReading
import Folio.Proofs.Page.TagEscape
import Folio.Proofs.Page.TokenEscape
import Folio.Proofs.Site.PageAccount
import Folio.Proofs.Site.PageOutput
import Folio.Proofs.Site.Republication
import Folio.Proofs.Site.SeparateOutput
import Folio.Proofs.Site.WholeRun
import Folio.Proofs.Text.FrontReplacement
import Folio.Proofs.Text.Indent
import Folio.Proofs.Text.Line
import Folio.Proofs.Text.Lowercase
import Folio.Proofs.Text.Word
import Folio.Proofs.TokenReplacement
import Folio.Proofs.Url
import Folio.Proofs.Variable
import Folio.Proofs.VariableScan
import Folio.Site.Generation
import Folio.Site.JsonTree
import Folio.Site.Metadata
import Folio.Site.Program
import Folio.Table
import Folio.Text.Blank
import Folio.Text.Indent
import Folio.Text.Line
import Folio.Text.Lowercase
import Folio.Text.Occurrence
import Folio.Text.WordChar
import Folio.Url
import Folio.Variable

import StaticSite.Calendar.Date
import StaticSite.Calendar.Moment
import StaticSite.Calendar.Timestamp
import StaticSite.CommandLine.Arguments
import StaticSite.CommandLine.Command
import StaticSite.CommandLine.Parameter
import StaticSite.Feed.Fill
import StaticSite.Feed.Load
import StaticSite.File.Action
import StaticSite.File.Path
import StaticSite.File.Store
import StaticSite.File.Tree
import StaticSite.File.Utf8
import StaticSite.Html.Anchor
import StaticSite.Html.Escape
import StaticSite.Html.Renderer
import StaticSite.Html.StandaloneImage
import StaticSite.Html.Writer
import StaticSite.Main
import StaticSite.Markdown.Block
import StaticSite.Markdown.BlockStart
import StaticSite.Markdown.CharacterReference
import StaticSite.Markdown.Delimiter
import StaticSite.Markdown.Document
import StaticSite.Markdown.Event
import StaticSite.Markdown.EventStream
import StaticSite.Markdown.Inline
import StaticSite.Markdown.Line
import StaticSite.Markdown.LinkParts
import StaticSite.Markdown.NamedCharacter
import StaticSite.Markdown.RawHtml
import StaticSite.Markdown.ReferenceDefinition
import StaticSite.Markdown.Token
import StaticSite.Noted
import StaticSite.Number.Binary64
import StaticSite.Number.Scalar
import StaticSite.Number.Written
import StaticSite.Post.Basic
import StaticSite.Post.Load
import StaticSite.Post.Metadata
import StaticSite.Proofs.Feed.Filled
import StaticSite.Proofs.Feed.Reload
import StaticSite.Proofs.File.Clearing
import StaticSite.Proofs.File.Descent
import StaticSite.Proofs.File.Execution
import StaticSite.Proofs.File.Spelling
import StaticSite.Proofs.File.Utf8
import StaticSite.Proofs.Html.AnchorName
import StaticSite.Proofs.Html.BlockContent
import StaticSite.Proofs.Html.CalmMarkup
import StaticSite.Proofs.Html.CodePassage
import StaticSite.Proofs.Html.FigureQueue
import StaticSite.Proofs.Html.HeadingElement
import StaticSite.Proofs.Html.HeadingRow
import StaticSite.Proofs.Html.HeldHeading
import StaticSite.Proofs.Html.ImageElement
import StaticSite.Proofs.Html.InPageLink
import StaticSite.Proofs.Html.Issuing
import StaticSite.Proofs.Html.LinkAddress
import StaticSite.Proofs.Html.NoteRank
import StaticSite.Proofs.Html.Outline
import StaticSite.Proofs.Html.Page
import StaticSite.Proofs.Html.PagePart
import StaticSite.Proofs.Html.ParagraphBreak
import StaticSite.Proofs.Html.ShownNote
import StaticSite.Proofs.Html.TableElement
import StaticSite.Proofs.Html.TextContent
import StaticSite.Proofs.Markdown.Nesting
import StaticSite.Proofs.Markdown.NoteOrder
import StaticSite.Proofs.Markdown.TaskMarker
import StaticSite.Proofs.Markdown.TokenForest
import StaticSite.Proofs.Markdown.WordJoin
import StaticSite.Proofs.Post.MetadataBlock
import StaticSite.Proofs.Post.Order
import StaticSite.Proofs.Settings.Loading
import StaticSite.Proofs.Settings.Settled
import StaticSite.Proofs.Site.Delivery
import StaticSite.Proofs.Site.Making
import StaticSite.Proofs.Site.Order
import StaticSite.Proofs.Site.ScanFailure
import StaticSite.Proofs.Site.ScanWalk
import StaticSite.Proofs.Site.SiteLinks
import StaticSite.Proofs.Site.Sources
import StaticSite.Proofs.Site.TemplateCopy
import StaticSite.Proofs.Template.Contents
import StaticSite.Proofs.Template.Division
import StaticSite.Proofs.Template.Filling
import StaticSite.Proofs.Template.Listing
import StaticSite.Proofs.Template.RelativeLink
import StaticSite.Proofs.Template.SpelledRule
import StaticSite.Proofs.Template.Stylesheets
import StaticSite.Proofs.Template.ValueReading
import StaticSite.Proofs.Text.Occurrence
import StaticSite.Settings.Check
import StaticSite.Settings.Load
import StaticSite.Site.Basic
import StaticSite.Site.Plan
import StaticSite.Site.Scan
import StaticSite.Template.Basic
import StaticSite.Template.Link
import StaticSite.Template.Piece
import StaticSite.Template.Rule
import StaticSite.Template.Value
import StaticSite.Text.Blank
import StaticSite.Text.Case
import StaticSite.Text.CharacterClass
import StaticSite.Text.CodeRange
import StaticSite.Text.Integer
import StaticSite.Text.LowerCase
import StaticSite.Text.Printable
import StaticSite.Text.Split
import StaticSite.Url.Address
import StaticSite.Url.Percent
import StaticSite.Url.Punycode
import StaticSite.Xml.Character
import StaticSite.Xml.Charset
import StaticSite.Xml.Declared
import StaticSite.Xml.Document
import StaticSite.Xml.DocumentType
import StaticSite.Xml.Element
import StaticSite.Xml.Encoding
import StaticSite.Xml.Markup
import StaticSite.Xml.Scanner
import StaticSite.Yaml.Building
import StaticSite.Yaml.Cursor
import StaticSite.Yaml.Graph
import StaticSite.Yaml.Kind
import StaticSite.Yaml.Meaning
import StaticSite.Yaml.Node
import StaticSite.Yaml.Property
import StaticSite.Yaml.Scalar
import StaticSite.Yaml.ScalarText
import StaticSite.Yaml.Timestamp
import StaticSite.Yaml.TokenStream
import StaticSite.Yaml.Value

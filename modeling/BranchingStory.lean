import BranchingStory.Charset.Basic
import BranchingStory.Charset.Chart
import BranchingStory.Charset.Chart.Big5
import BranchingStory.Charset.Chart.Gb2312
import BranchingStory.Charset.Chart.HongKong
import BranchingStory.Charset.Chart.JisX0208
import BranchingStory.Charset.Chart.JisX0212
import BranchingStory.Charset.Chart.JisX0213
import BranchingStory.Charset.Chart.KsX1001
import BranchingStory.Charset.Chinese
import BranchingStory.Charset.Decoder
import BranchingStory.Charset.Escapes
import BranchingStory.Charset.Front
import BranchingStory.Charset.Japanese
import BranchingStory.Charset.Korean
import BranchingStory.Charset.MultiByte
import BranchingStory.Charset.Name
import BranchingStory.Charset.Page
import BranchingStory.Charset.Page.Desktop
import BranchingStory.Charset.Page.Iso
import BranchingStory.Charset.Page.Mainframe
import BranchingStory.Charset.Page.Terminal
import BranchingStory.Charset.Page.Windows
import BranchingStory.Charset.Switching
import BranchingStory.Charset.Utf7
import BranchingStory.Client.Basic
import BranchingStory.Client.ContentCoding
import BranchingStory.Client.ContentType
import BranchingStory.Client.Local
import BranchingStory.Client.Redirect
import BranchingStory.Client.Reply
import BranchingStory.Compression.Bits
import BranchingStory.Compression.Checksum
import BranchingStory.Compression.Code
import BranchingStory.Compression.Envelope
import BranchingStory.Compression.Inflate
import BranchingStory.Entries
import BranchingStory.Http.Address
import BranchingStory.Http.Body
import BranchingStory.Http.Endpoint
import BranchingStory.Http.Message
import BranchingStory.Http.Service
import BranchingStory.Json.Alike
import BranchingStory.Json.Basic
import BranchingStory.Json.Encoding
import BranchingStory.Json.Excess
import BranchingStory.Json.Reader
import BranchingStory.Json.Writer
import BranchingStory.Main
import BranchingStory.Markup.Attribute
import BranchingStory.Markup.Block
import BranchingStory.Markup.Compact
import BranchingStory.Markup.Element
import BranchingStory.Markup.Parser
import BranchingStory.Markup.Printer
import BranchingStory.Markup.Scan
import BranchingStory.Markup.TagName
import BranchingStory.Markup.TailLimit
import BranchingStory.Markup.Utterance
import BranchingStory.Narrative.Character
import BranchingStory.Narrative.ChoiceKind
import BranchingStory.Narrative.Fragment
import BranchingStory.Narrative.Hub
import BranchingStory.Narrative.Route
import BranchingStory.Narrative.Session
import BranchingStory.Number.Binary64
import BranchingStory.Number.Shortest
import BranchingStory.Record.Basic
import BranchingStory.Record.Check
import BranchingStory.Record.Conversation
import BranchingStory.Record.LooseSession
import BranchingStory.Record.Routing
import BranchingStory.Record.Step
import BranchingStory.Store.Archive
import BranchingStory.Store.Basic
import BranchingStory.Store.Disk
import BranchingStory.Store.Key
import BranchingStory.Store.PieceSize
import BranchingStory.Store.Settings
import BranchingStory.Store.Title
import BranchingStory.Store.Unchecked
import BranchingStory.Story.Choice
import BranchingStory.Story.Emotion
import BranchingStory.Story.Segment
import BranchingStory.Story.Stage
import BranchingStory.Terminal.Pause
import BranchingStory.Terminal.Play
import BranchingStory.Text.Basic
import BranchingStory.Text.Blank
import BranchingStory.Text.Case
import BranchingStory.Text.Composition
import BranchingStory.Text.Digit
import BranchingStory.Text.Direction
import BranchingStory.Text.Hex
import BranchingStory.Text.Newline
import BranchingStory.Text.Numeral
import BranchingStory.Text.Order
import BranchingStory.Text.PlainNumeral
import BranchingStory.Text.Punycode
import BranchingStory.Text.Quoted
import BranchingStory.Text.Split
import BranchingStory.Text.Str
import BranchingStory.Text.Utf16
import BranchingStory.Text.Utf32
import BranchingStory.Text.Utf8
import BranchingStory.Text.Word
import BranchingStory.Url.Basic
import BranchingStory.Url.Escape
import BranchingStory.Url.HostName
import BranchingStory.Url.Label
import BranchingStory.Url.LabelSets
import BranchingStory.Url.Literal
import BranchingStory.Url.Reader
import BranchingStory.Proofs.Markup.Extension
import BranchingStory.Proofs.Markup.Sight
import BranchingStory.Proofs.Markup.Pieces
import BranchingStory.Proofs.Markup.Site
import BranchingStory.Proofs.Markup.SiteScan
import BranchingStory.Proofs.Markup.Script
import BranchingStory.Proofs.Markup.Written
import BranchingStory.Proofs.Text.Trim
import BranchingStory.Proofs.Markup.PassageBlock
import BranchingStory.Proofs.Markup.PassageSpeech
import BranchingStory.Proofs.Markup.Repetition
import BranchingStory.Proofs.Markup.RoundTrip
import BranchingStory.Proofs.Json.StringText
import BranchingStory.Proofs.Text.Digit
import BranchingStory.Proofs.Number.Rounding
import BranchingStory.Proofs.Number.Decimal
import BranchingStory.Proofs.Json.NumberText
import BranchingStory.Proofs.Json.WriteRead
import BranchingStory.Proofs.Entries
import BranchingStory.Proofs.Record.Lossless
import BranchingStory.Proofs.Record.ReadBack
import BranchingStory.Proofs.Json.Proper
import BranchingStory.Proofs.Json.Header
import BranchingStory.Proofs.Json.ReadWrite
import BranchingStory.Proofs.Json.Unwritable
import BranchingStory.Proofs.Store.Archive
import BranchingStory.Proofs.Store.Actions
import BranchingStory.Proofs.Narrative.ChoiceKind
import BranchingStory.Proofs.Narrative.Scene
import BranchingStory.Proofs.Narrative.Turn
import BranchingStory.Proofs.Http.Service
import BranchingStory.Proofs.Http.Request
import BranchingStory.Proofs.Http.Playthrough
import BranchingStory.Proofs.Narrative.Rising
import BranchingStory.Proofs.Narrative.Renaming
import BranchingStory.Proofs.Record.Revision
import BranchingStory.Proofs.Record.Standing
import BranchingStory.Proofs.Store.Change
import BranchingStory.Proofs.Store.Effect
import BranchingStory.Proofs.Store.Settings
import BranchingStory.Proofs.Http.Mirror
import BranchingStory.Proofs.Http.Effect
import BranchingStory.Proofs.Http.History
import BranchingStory.Proofs.Http.Story
import BranchingStory.Proofs.Http.Delivery
import BranchingStory.Proofs.Client.Body
import BranchingStory.Proofs.Client.Exchange
import BranchingStory.Proofs.Client.Agreement
import BranchingStory.Proofs.Markup.Fallback
import BranchingStory.Proofs.Markup.IrregularName
import BranchingStory.Proofs.Narrative.InPieces
import BranchingStory.Proofs.Text.Order
import BranchingStory.Proofs.Text.CodeSet
import BranchingStory.Proofs.Text.Numeral
import BranchingStory.Proofs.Store.Catalog
import BranchingStory.Proofs.Store.Filing
import BranchingStory.Proofs.Store.Refinement
import BranchingStory.Proofs.Store.Legibility
import BranchingStory.Proofs.Markup.Upkeep
import BranchingStory.Proofs.Http.Failure
import BranchingStory.Proofs.Store.Apart
import BranchingStory.Proofs.Http.Apart
import BranchingStory.Proofs.Narrative.Restore
import BranchingStory.Proofs.Narrative.Routing
import BranchingStory.Proofs.Markup.CompactLayout
import BranchingStory.Proofs.Markup.CompactAgreement
import BranchingStory.Proofs.Markup.FirstOccurrence
import BranchingStory.Proofs.Markup.OpenTag
import BranchingStory.Proofs.Client.Failure
import BranchingStory.Proofs.Terminal.Playing

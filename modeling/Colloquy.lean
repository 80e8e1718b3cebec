import Colloquy.App.Outbox
import Colloquy.App.State
import Colloquy.App.Update
import Colloquy.Calendar.Age
import Colloquy.Calendar.Date
import Colloquy.Calendar.Instant
import Colloquy.Calendar.Timestamp
import Colloquy.Decimal.Shortest
import Colloquy.Discussion.Comment
import Colloquy.Discussion.Insert
import Colloquy.Discussion.Row
import Colloquy.Discussion.Sample
import Colloquy.Discussion.View
import Colloquy.Discussion.Walk
import Colloquy.Fault
import Colloquy.Files
import Colloquy.Http.Client
import Colloquy.Json.Basic
import Colloquy.Json.Lexer
import Colloquy.Json.Numeral
import Colloquy.Json.Reading
import Colloquy.Listing.Entry
import Colloquy.Listing.Fields
import Colloquy.Listing.FromText
import Colloquy.Listing.FromValue
import Colloquy.Listing.Mismatch
import Colloquy.Main
import Colloquy.Page.Draft
import Colloquy.Page.DrawnComment
import Colloquy.Page.Heading
import Colloquy.Page.Input
import Colloquy.Page.Layout
import Colloquy.Page.NoticeStack
import Colloquy.Page.Page
import Colloquy.Page.Pane
import Colloquy.Page.PaneView
import Colloquy.Page.ReplyPanel
import Colloquy.Proofs.App.Conversation
import Colloquy.Proofs.App.Drafts
import Colloquy.Proofs.App.Exchange
import Colloquy.Proofs.App.Run
import Colloquy.Proofs.App.WellFormed
import Colloquy.Proofs.Discussion.Ancestry
import Colloquy.Proofs.Discussion.Growth
import Colloquy.Proofs.Discussion.Outline
import Colloquy.Proofs.View.Nodes
import Colloquy.Proofs.View.WellFormed
import Colloquy.Reply.Backend
import Colloquy.Reply.Delivery
import Colloquy.Reply.Notice
import Colloquy.Reply.OpenReply
import Colloquy.Reply.Session
import Colloquy.Screen.Grid
import Colloquy.Screen.Line
import Colloquy.Screen.Panel
import Colloquy.Screen.Scrollbar
import Colloquy.Settings.Arguments
import Colloquy.Settings.File
import Colloquy.Settings.Resolved
import Colloquy.Text.Blank
import Colloquy.Text.Cluster
import Colloquy.Text.Debug
import Colloquy.Text.Flow
import Colloquy.Text.Invisible
import Colloquy.Text.Offset
import Colloquy.Text.Property
import Colloquy.Text.Utf8
import Colloquy.Text.Width
import Colloquy.Text.Wrap
import Colloquy.Toml.Document
import Colloquy.Toml.Number
import Colloquy.Toml.Scan
import Colloquy.Toml.Table
import Colloquy.Toml.Text
import Colloquy.Proofs.Discussion.Lineage
import Colloquy.Proofs.View.Rows
import Colloquy.Proofs.App.PostAuthor
import Colloquy.Proofs.App.Mounting
import Colloquy.Proofs.App.Scores
import Colloquy.Proofs.App.Hidden
import Colloquy.Proofs.Page.Draft
import Colloquy.Proofs.Page.Turns
import Colloquy.Proofs.Except
import Colloquy.Proofs.Page.Measures
import Colloquy.Proofs.Page.Carets
import Colloquy.Proofs.App.Keys
import Colloquy.Proofs.Page.Correspondence
import Colloquy.Proofs.Json.Spelling
import Colloquy.Proofs.Json.Strings
import Colloquy.Proofs.Json.Numbers
import Colloquy.Proofs.Json.Readings
import Colloquy.Proofs.Listing.Fields
import Colloquy.Proofs.Listing.Agreement
import Colloquy.Proofs.Listing.Description
import Colloquy.Proofs.App.Splice
import Colloquy.Proofs.Page.Keyboard
import Colloquy.Proofs.View.Guides
import Colloquy.Proofs.Page.Layout
import Colloquy.Proofs.Page.Clicks
import Colloquy.Proofs.Screen.Cells
import Colloquy.Proofs.Screen.Fields
import Colloquy.Proofs.Text.Plain
import Colloquy.Proofs.Screen.PlainText
import Colloquy.Proofs.Page.Controls
import Colloquy.Proofs.Page.DrawnRows
import Colloquy.Proofs.Page.Targets
import Colloquy.Proofs.Discussion.Arrivals
import Colloquy.Proofs.View.Folding
import Colloquy.Proofs.Reply.Delivery
import Colloquy.Proofs.App.Loading
import Colloquy.Proofs.Page.Zipper
import Colloquy.Proofs.Listing.Conversion
import Colloquy.Proofs.Json.Endings
import Colloquy.Proofs.Listing.Prefixes
import Colloquy.Proofs.Json.Canonical
import Colloquy.Proofs.Json.Writing
import Colloquy.Proofs.Reply.Body
import Colloquy.Proofs.Page.Scrolling
import Colloquy.Proofs.Page.Selection
import Colloquy.Proofs.Page.Tiling
import Colloquy.Proofs.Text.Breaks
import Colloquy.Proofs.Text.Pieces
import Colloquy.Proofs.Page.CaretBox
import Colloquy.Proofs.Discussion.Blocks
import Colloquy.Proofs.Reply.Notices
import Colloquy.Proofs.Calendar.Days
import Colloquy.Proofs.Calendar.Timestamp
import Colloquy.Proofs.Text.Columns
import Colloquy.Proofs.Text.Flow
import Colloquy.Proofs.Text.Rows
import Colloquy.Proofs.Page.BoxHeight
import Colloquy.Proofs.Text.Cutting
import Colloquy.Proofs.Text.Words
import Colloquy.Proofs.Text.Trim
import Colloquy.Proofs.Calendar.Age
import Colloquy.Proofs.Settings.Layers
import Colloquy.Proofs.Settings.Credentials

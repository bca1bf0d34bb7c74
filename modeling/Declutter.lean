import Declutter.Text.Basic
import Declutter.Text.Blank
import Declutter.Text.Ascii
import Declutter.Text.Quoted
import Declutter.Text.Numeral
import Declutter.Text.Order
import Declutter.Keyed
import Declutter.Json.Double
import Declutter.Json.Value
import Declutter.Json.Writer
import Declutter.Json.Source
import Declutter.Json.Decode
import Declutter.Unicode.Ranges
import Declutter.Unicode.WordChar
import Declutter.Unicode.Fold
import Declutter.Unicode.Bidi
import Declutter.Unicode.Joining
import Declutter.Unicode.Composition
import Declutter.Unicode.HostMapping
import Declutter.Text.Utf8
import Declutter.Url.Address
import Declutter.Url.Punycode
import Declutter.Url.DomainName
import Declutter.Url.Ip
import Declutter.Url.Authority
import Declutter.Site.Glob
import Declutter.Site.Pattern
import Declutter.Selector.Basic
import Declutter.Selector.Token
import Declutter.Selector.Reader
import Declutter.Page.Element
import Declutter.Page.Forest
import Declutter.Page.Basic
import Declutter.Page.Style
import Declutter.Selector.Spot
import Declutter.Selector.Matching
import Declutter.Page.Edit
import Declutter.Page.Draft
import Declutter.Html.Reference
import Declutter.Html.Token
import Declutter.Html.Lexer
import Declutter.Html.Names
import Declutter.Html.Builder
import Declutter.Html.Formatting
import Declutter.Html.Head
import Declutter.Html.Body
import Declutter.Html.Table
import Declutter.Html.Tree
import Declutter.Html.Writer
import Declutter.Page.Operation
import Declutter.Rule.Kind
import Declutter.Rule.Argument
import Declutter.Rule.Registry
import Declutter.Rule.Basic
import Declutter.Rule.Expression
import Declutter.Rule.Definition
import Declutter.Rule.RuleSet
import Declutter.Rule.Filing
import Declutter.Settings
import Declutter.Rule.Index
import Declutter.Tally
import Declutter.Schedule
import Declutter.Bridge.Message
import Declutter.Bridge.Scope
import Declutter.Bridge.Channel
import Declutter.Bridge.Service
import Declutter.Engine.Host
import Declutter.Engine.Visit
import Declutter.Engine.Report
import Declutter.Engine.Pass
import Declutter.Files.Shell
import Declutter.Files.Folder
import Declutter.Command.Catalog
import Declutter.Command.Arguments
import Declutter.Command.Run
import Declutter.Main
import Declutter.Proofs.Engine.Latch
import Declutter.Proofs.Engine.Agreement
import Declutter.Proofs.Engine.Abort
import Declutter.Proofs.Page.Spots
import Declutter.Proofs.Rule.Checked
import Declutter.Proofs.Engine.Fault
import Declutter.Proofs.Engine.Safety
import Declutter.Proofs.Rule.Grammar
import Declutter.Proofs.Bridge.Ledger
import Declutter.Proofs.Bridge.Delivery
import Declutter.Proofs.Bridge.Waiting
import Declutter.Proofs.Rule.Filing
import Declutter.Proofs.Site.Glob
import Declutter.Proofs.Site.Pattern
import Declutter.Proofs.Engine.Definedness
import Declutter.Proofs.Site.Meaning
import Declutter.Proofs.Site.Twin
import Declutter.Proofs.Site.Coverage
import Declutter.Proofs.Engine.Reporting
import Declutter.Proofs.Bridge.Serving
import Declutter.Proofs.Bridge.Served
import Declutter.Proofs.Bridge.Calling
import Declutter.Proofs.Engine.Bridged
import Declutter.Proofs.Schedule
import Declutter.Proofs.Rule.Switching
import Declutter.Proofs.Rule.Registered
import Declutter.Proofs.Rule.Printing
import Declutter.Proofs.Rule.Conserving
import Declutter.Proofs.Site.Literal
import Declutter.Proofs.Page.Removal
import Declutter.Proofs.Page.Classes
import Declutter.Proofs.Engine.Deeds
import Declutter.Proofs.Rule.Locating
import Declutter.Proofs.Engine.Accounting
import Declutter.Proofs.Bridge.Requests
import Declutter.Proofs.Text.Slice
import Declutter.Proofs.Url.Slicing
import Declutter.Proofs.Url.Host
import Declutter.Proofs.Url.Toggling
import Declutter.Proofs.Page.Order
import Declutter.Proofs.Bridge.Marks
import Declutter.Proofs.Rule.LastSwitch
import Declutter.Proofs.Site.LetterCase
import Declutter.Proofs.Engine.ClassActions
import Declutter.Proofs.Files.Folder
import Declutter.Proofs.Files.TallyFile
import Declutter.Proofs.Page.Declarations
import Declutter.Proofs.Engine.StyleActions
import Declutter.Proofs.Bridge.Paths

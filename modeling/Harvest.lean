import Harvest.Css.Chain
import Harvest.Css.Component
import Harvest.Css.Reader
import Harvest.Css.Selector
import Harvest.Error
import Harvest.Extract.Conversion
import Harvest.Extract.Evaluator
import Harvest.Extract.Match
import Harvest.Extract.Options
import Harvest.Extract.Page
import Harvest.Extract.State
import Harvest.Fields
import Harvest.Filter.Basic
import Harvest.Filter.Builtin
import Harvest.Filter.Call
import Harvest.Filter.Chain
import Harvest.Filter.Paging
import Harvest.Filter.Params
import Harvest.Filter.Registry
import Harvest.Filter.Remote
import Harvest.Filter.Rewriting
import Harvest.Filter.Template
import Harvest.Filter.Textual
import Harvest.Filter.Validator
import Harvest.Host
import Harvest.Json.Basic
import Harvest.Json.Path
import Harvest.Json.Source
import Harvest.Markup.Builder
import Harvest.Markup.Doctype
import Harvest.Markup.Document
import Harvest.Markup.Entity
import Harvest.Markup.Foreign
import Harvest.Markup.Name
import Harvest.Markup.Reference
import Harvest.Markup.Render
import Harvest.Markup.Rules
import Harvest.Markup.Token
import Harvest.Markup.Tree
import Harvest.Number.Binary64
import Harvest.Number.Decimal
import Harvest.Pattern.Basic
import Harvest.Pattern.Bracket
import Harvest.Pattern.Escape
import Harvest.Pattern.Expr
import Harvest.Pattern.Extended.Expr
import Harvest.Pattern.Extended.Machine
import Harvest.Pattern.Extended.Program
import Harvest.Pattern.Extended.Reader
import Harvest.Pattern.Fault
import Harvest.Pattern.Linear
import Harvest.Pattern.Mode
import Harvest.Pattern.Program
import Harvest.Pattern.Reader
import Harvest.Pattern.Replace
import Harvest.Pattern.Size
import Harvest.Scalar
import Harvest.Spec.Basic
import Harvest.Spec.File
import Harvest.Spec.Selector
import Harvest.Spec.Tag
import Harvest.Spec.Text
import Harvest.Spec.Yaml
import Harvest.Store.Disk
import Harvest.Store.Folder
import Harvest.Text.Blank
import Harvest.Text.Find
import Harvest.Text.Numeral
import Harvest.Text.Quoted
import Harvest.Text.Utf8
import Harvest.Unicode.Age
import Harvest.Unicode.Binary
import Harvest.Unicode.Boundary
import Harvest.Unicode.Category
import Harvest.Unicode.Folding
import Harvest.Unicode.Listing
import Harvest.Unicode.Property
import Harvest.Unicode.Ranges
import Harvest.Unicode.Script
import Harvest.Unicode.ScriptExtension
import Harvest.Url.Basic
import Harvest.Url.Host
import Harvest.Url.Punycode
import Harvest.Value
import Harvest.Yaml.Cursor
import Harvest.Yaml.Node
import Harvest.Yaml.Scalar
import Harvest.Yaml.Token
import Harvest.Proofs.Extract.Link
import Harvest.Proofs.Extract.Node
import Harvest.Proofs.Extract.Level
import Harvest.Proofs.Extract.Cache
import Harvest.Proofs.Extract.Conformance
import Harvest.Proofs.Extract.Depth
import Harvest.Proofs.Json.Locality
import Harvest.Proofs.Extract.Embedded
import Harvest.Proofs.Markup.Growth
import Harvest.Proofs.Markup.Rooted
import Harvest.Proofs.Markup.RootedRules
import Harvest.Proofs.Markup.Begun
import Harvest.Proofs.Markup.Document
import Harvest.Proofs.Css.Uproot
import Harvest.Proofs.Extract.Session
import Harvest.Proofs.Fields
import Harvest.Proofs.Markup.Ancestor
import Harvest.Proofs.Markup.Pruning
import Harvest.Proofs.Css.Pruning
import Harvest.Proofs.Extract.Removal
import Harvest.Proofs.Extract.Site
import Harvest.Proofs.Extract.Composite
import Harvest.Proofs.Filter.Clock
import Harvest.Proofs.Extract.Frame
import Harvest.Proofs.Extract.Sibling
import Harvest.Proofs.Filter.Refusal
import Harvest.Proofs.Filter.Rejection
import Harvest.Proofs.Filter.Rendering
import Harvest.Proofs.Json.Writing
import Harvest.Proofs.Spec.Built
import Harvest.Proofs.Spec.RoundTrip
import Harvest.Proofs.Extract.Reuse
import Harvest.Proofs.Filter.Registry
import Harvest.Proofs.Store.Disk
import Harvest.Proofs.Store.Folder
import Harvest.Proofs.Filter.Leaves
import Harvest.Proofs.Filter.Storing
import Harvest.Proofs.Extract.Listing
import Harvest.Proofs.Text.Find
import Harvest.Proofs.Text.Utf8
import Harvest.Proofs.Filter.History
import Harvest.Proofs.Json.Control
import Harvest.Proofs.Host
import Harvest.Proofs.Json.Path
import Harvest.Proofs.Extract.Dotted
import Harvest.Proofs.Css.Compose
import Harvest.Proofs.Text.Quoted
import Harvest.Proofs.Filter.Quoting
import Harvest.Proofs.Json.Escaped
import Harvest.Proofs.Markup.Sibling
import Harvest.Proofs.Css.NodeSet
import Harvest.Proofs.Css.Navigation
import Harvest.Proofs.Extract.Context
import Harvest.Proofs.Text.Numeral
import Harvest.Proofs.Filter.Params
import Harvest.Proofs.Text.Substitute
import Harvest.Proofs.Filter.Placeholder
import Harvest.Proofs.Filter.Paging
import Harvest.Proofs.Pattern.Tiling
import Harvest.Proofs.Filter.Rewriting
import Harvest.Proofs.Pattern.Adjoining
import Harvest.Proofs.Filter.Agreement
import Harvest.Proofs.Filter.Template
import Harvest.Proofs.Filter.ZeroPadding
import Harvest.Proofs.Pattern.Linear
import Harvest.Proofs.Pattern.Machine
import Harvest.Proofs.Filter.Href
import Harvest.Proofs.Filter.Padding
import Harvest.Proofs.Filter.Verdict
import Harvest.Proofs.Extract.Verdict
import Harvest.Proofs.Traversal
import Harvest.Proofs.Filter.Stringwise
import Harvest.Proofs.Number.Binary64
import Harvest.Proofs.Extract.Integer
import Harvest.Proofs.Css.Position
import Harvest.Proofs.Text.Parting
import Harvest.Proofs.Filter.Splitting

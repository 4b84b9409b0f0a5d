import SiteClient.Decimal.Binary
import SiteClient.Decimal.Shortest
import SiteClient.Json.Basic
import SiteClient.Json.Decode
import SiteClient.Json.Number
import SiteClient.Json.Numeral
import SiteClient.Json.Outline
import SiteClient.Json.Printer
import SiteClient.Json.ReadError
import SiteClient.Json.Record
import SiteClient.Json.Token
import SiteClient.Localized.Format
import SiteClient.Localized.Loader
import SiteClient.Localized.Request
import SiteClient.Localized.Resolver
import SiteClient.Remote.CannedSite
import SiteClient.Remote.Dispatcher
import SiteClient.Remote.Error
import SiteClient.Remote.HttpEndpoint
import SiteClient.Remote.Job
import SiteClient.Remote.LocalSite
import SiteClient.Remote.Message
import SiteClient.Remote.RoundTrip
import SiteClient.Remote.Script
import SiteClient.Remote.Wire
import SiteClient.Render.Expansion
import SiteClient.Render.Image
import SiteClient.Render.Placeholder
import SiteClient.Render.Renderer
import SiteClient.Render.TemplateCache
import SiteClient.Session.Duration
import SiteClient.Session.Keepalive
import SiteClient.Session.Monitor
import SiteClient.Session.Settings
import SiteClient.Session.Simulation
import SiteClient.SiteConfig
import SiteClient.Template.Escape
import SiteClient.Template.Layout
import SiteClient.Template.Render
import SiteClient.Template.Scope
import SiteClient.Template.SectionRule
import SiteClient.Template.Tag
import SiteClient.Template.Tree
import SiteClient.Text.Basic
import SiteClient.Text.Blank
import SiteClient.Text.CodePoints
import SiteClient.Text.Printable
import SiteClient.Text.Quoted
import SiteClient.Text.Utf8
import SiteClient.Url.Address
import SiteClient.Url.Basic
import SiteClient.Url.Domain
import SiteClient.Url.Domain.Composition
import SiteClient.Url.Domain.Direction
import SiteClient.Url.Domain.Joining
import SiteClient.Url.Domain.Mapping
import SiteClient.Url.Domain.Marks
import SiteClient.Url.Form
import SiteClient.Url.Host
import SiteClient.Url.Percent
import SiteClient.Url.Punycode
import SiteClient.Url.Reader
import SiteClient.Proofs.Remote.Handles
import SiteClient.Proofs.Remote.Independence
import SiteClient.Proofs.Remote.Outcome
import SiteClient.Proofs.Render.Parts
import SiteClient.Proofs.Template.Coupling
import SiteClient.Proofs.Template.Segments
import SiteClient.Proofs.Render.Trace
import SiteClient.Proofs.Render.Inline
import SiteClient.Proofs.Render.Insertion
import SiteClient.Proofs.Template.Nesting
import SiteClient.Proofs.Template.Layout
import SiteClient.Proofs.Template.Spelling
import SiteClient.Proofs.Template.Blanks
import SiteClient.Proofs.Template.Body
import SiteClient.Proofs.Template.Lines
import SiteClient.Proofs.Template.Margins
import SiteClient.Proofs.Template.Balance
import SiteClient.Proofs.Template.Slices
import SiteClient.Proofs.Template.Offsets
import SiteClient.Proofs.Template.Boundaries
import SiteClient.Proofs.Remote.Interleaving
import SiteClient.Proofs.Remote.Caching
import SiteClient.Proofs.Render.Agreement
import SiteClient.Proofs.Json.Grammar
import SiteClient.Proofs.Json.Structure
import SiteClient.Proofs.Json.Decoding
import SiteClient.Proofs.Json.Lexing
import SiteClient.Proofs.Json.Reading
import SiteClient.Proofs.Remote.Messages
import SiteClient.Proofs.Remote.Running
import SiteClient.Proofs.Remote.LocalExchange
import SiteClient.Proofs.Remote.DirectRun
import SiteClient.Proofs.Remote.FailClosed
import SiteClient.Proofs.Remote.Schedules
import SiteClient.Proofs.Render.Answers
import SiteClient.Proofs.Render.Strings
import SiteClient.Proofs.Render.History
import SiteClient.Proofs.Session.Recording
import SiteClient.Proofs.Session.History
import SiteClient.Proofs.Session.Lifecycle
import SiteClient.Proofs.Session.Timetable
import SiteClient.Proofs.Session.Consent
import SiteClient.Proofs.Session.Intervals
import SiteClient.Proofs.Session.Lease
import SiteClient.Proofs.Remote.RoundTrips
import SiteClient.Proofs.Localized.Loading
import SiteClient.Proofs.Remote.Contracts
import SiteClient.Proofs.Localized.Sharing
import SiteClient.Proofs.Localized.Lookup
import SiteClient.Proofs.Render.Resolution
import SiteClient.Proofs.Render.Budget
import SiteClient.Proofs.Localized.Filling
import SiteClient.Proofs.Render.Spans
import SiteClient.Proofs.Template.Names
import SiteClient.Proofs.Template.Contexts
import SiteClient.Proofs.Template.Extracts
import SiteClient.Proofs.Render.Injection
import SiteClient.Proofs.Template.Strokes
import SiteClient.Proofs.Template.Entities
import SiteClient.Proofs.Render.Descent
import SiteClient.Proofs.Remote.Records
import SiteClient.Proofs.Decimal.Rounding
import SiteClient.Proofs.Session.Remaining
import SiteClient.Proofs.Render.Parameters
import SiteClient.Proofs.Text.Bytes
import SiteClient.Proofs.Url.Queries
import SiteClient.Proofs.Decimal.Numerals
import SiteClient.Proofs.Render.ImageUrls
import SiteClient.Proofs.Render.Recognition
import SiteClient.Proofs.Render.Restoration
import SiteClient.Proofs.Template.Unescaping

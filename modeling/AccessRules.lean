import AccessRules.Calendar
import AccessRules.Client
import AccessRules.Condition.Apply
import AccessRules.Condition.Arithmetic
import AccessRules.Condition.Compare
import AccessRules.Condition.Evaluate
import AccessRules.Condition.Held
import AccessRules.Condition.Lookup
import AccessRules.Condition.Method
import AccessRules.Condition.Operator
import AccessRules.Condition.Outcome
import AccessRules.Condition.Slice
import AccessRules.Document.Basic
import AccessRules.Document.Equality
import AccessRules.Document.Guard
import AccessRules.Document.Members
import AccessRules.Document.Written
import AccessRules.Engine
import AccessRules.Failure
import AccessRules.Fault
import AccessRules.Json.Read
import AccessRules.Loading
import AccessRules.Log.Context
import AccessRules.Log.Level
import AccessRules.Log.Line
import AccessRules.Log.Setup
import AccessRules.Log.Template
import AccessRules.Metrics
import AccessRules.Notice
import AccessRules.Number.Exact
import AccessRules.Number.Fixed
import AccessRules.Number.Numeric
import AccessRules.Number.Parse
import AccessRules.Number.Read
import AccessRules.Number.Shortest
import AccessRules.Number.Written
import AccessRules.Payload
import AccessRules.Request
import AccessRules.Resolver
import AccessRules.Response
import AccessRules.Rule
import AccessRules.Settings.Basic
import AccessRules.Settings.EnvFile
import AccessRules.Settings.Source
import AccessRules.Source.File
import AccessRules.Source.Http
import AccessRules.Startup
import AccessRules.Store
import AccessRules.Text.Base64
import AccessRules.Text.Blank
import AccessRules.Text.Breaks
import AccessRules.Text.Digit
import AccessRules.Text.Encoding
import AccessRules.Text.LetterCase
import AccessRules.Text.Printable
import AccessRules.Text.Quoted
import AccessRules.Text.Ranges
import AccessRules.Text.Search
import AccessRules.Text.Utf8
import AccessRules.Yaml.Cursor
import AccessRules.Yaml.Name
import AccessRules.Yaml.Node
import AccessRules.Yaml.Node.Reader
import AccessRules.Yaml.Plain
import AccessRules.Yaml.Scalar
import AccessRules.Yaml.Token
import AccessRules.Yaml.Token.Lexer
import AccessRules.Yaml.Value
import AccessRules.Proofs.Resolver.Decision
import AccessRules.Proofs.Resolver.Listing
import AccessRules.Proofs.Client.Event
import AccessRules.Proofs.Client.Once
import AccessRules.Proofs.Loading.Parse
import AccessRules.Proofs.Loading.Serve
import AccessRules.Proofs.Loading.Routes
import AccessRules.Proofs.Loading.Refusal
import AccessRules.Proofs.Client.Turns
import AccessRules.Proofs.Spelling.Basic
import AccessRules.Proofs.Spelling.Number
import AccessRules.Proofs.Spelling.Json
import AccessRules.Proofs.Spelling.Quoted
import AccessRules.Proofs.Spelling.Plain
import AccessRules.Proofs.Spelling.Cut
import AccessRules.Proofs.Spelling.Tokens
import AccessRules.Proofs.Spelling.Node
import AccessRules.Proofs.Spelling.Value
import AccessRules.Proofs.Source.Agree
import AccessRules.Proofs.Resolver.Monotone
import AccessRules.Deployment
import AccessRules.Proofs.Engine.Progress
import AccessRules.Proofs.Deployment.Step
import AccessRules.Proofs.Deployment.Counters
import AccessRules.Proofs.Deployment.Lifetime
import AccessRules.Proofs.Startup.Retry
import AccessRules.Proofs.Engine.Loads
import AccessRules.Proofs.Deployment.Gauge
import AccessRules.Proofs.Numeral.Grammar
import AccessRules.Proofs.Numeral.Float
import AccessRules.Proofs.Numeral.Script
import AccessRules.Proofs.Condition.Guarded
import AccessRules.Proofs.Condition.Threshold
import AccessRules.Proofs.Log.Line
import AccessRules.Proofs.Condition.Equation
import AccessRules.Proofs.Condition.Relay
import AccessRules.Proofs.Rule.Wire
import AccessRules.Proofs.Deployment.Awaits
import AccessRules.Proofs.Condition.Missing
import AccessRules.Proofs.Deployment.Trail
import AccessRules.Proofs.Rule.Issues
import AccessRules.Proofs.Source.Contained
import AccessRules.Proofs.Resolver.Roles
import AccessRules.Proofs.Log.Context
import AccessRules.Proofs.Log.Trace
import AccessRules.Proofs.Deployment.Logging
import AccessRules.Proofs.Startup.Level
import AccessRules.Proofs.Settings.Name
import AccessRules.Proofs.Settings.EnvFile
import AccessRules.Proofs.Settings.Effective
import AccessRules.Proofs.Settings.Timeout
import AccessRules.Proofs.Settings.Choice
import AccessRules.Proofs.Document.Guarding

import DartLayers.CommandLine
import DartLayers.CommandLine.Help
import DartLayers.CommandLine.Word
import DartLayers.Console
import DartLayers.Console.Transcript
import DartLayers.Dart.Decoding
import DartLayers.Dart.Identifier
import DartLayers.Dart.Literal
import DartLayers.Dart.RecordClass
import DartLayers.Dart.Type
import DartLayers.Double
import DartLayers.Double.Shortest
import DartLayers.Endpoint.Address
import DartLayers.Endpoint.Feature
import DartLayers.Endpoint.Host
import DartLayers.Endpoint.Method
import DartLayers.Endpoint.Naming
import DartLayers.FileTree
import DartLayers.FileTree.Access
import DartLayers.FileTree.Listing
import DartLayers.FileTree.Walk
import DartLayers.Json
import DartLayers.Json.Display
import DartLayers.Json.Reader
import DartLayers.Main
import DartLayers.Manifest
import DartLayers.Manifest.Update
import DartLayers.Markup
import DartLayers.Markup.Color
import DartLayers.Markup.Emoji
import DartLayers.Markup.Emoji.Table
import DartLayers.Markup.Escape
import DartLayers.Markup.Handler
import DartLayers.Markup.Literal
import DartLayers.Markup.Literal.Fault
import DartLayers.Markup.Literal.Grammar
import DartLayers.Markup.Literal.Quotation
import DartLayers.Markup.Literal.Reading
import DartLayers.Markup.Literal.Scan
import DartLayers.Markup.Literal.Token
import DartLayers.Markup.Piece
import DartLayers.Markup.Style
import DartLayers.Merge
import DartLayers.Operator
import DartLayers.PathName
import DartLayers.Plan
import DartLayers.Program
import DartLayers.Proofs.Dart.Mentions
import DartLayers.Proofs.FileTree.Entries
import DartLayers.Proofs.FileTree.Growth
import DartLayers.Proofs.FileTree.Site
import DartLayers.Proofs.FileTree.Strides
import DartLayers.Proofs.FileTree.Ways
import DartLayers.Proofs.Markup.Plain
import DartLayers.Proofs.Merge.Again
import DartLayers.Proofs.Merge.Cases
import DartLayers.Proofs.Merge.Loss
import DartLayers.Proofs.Merge.Report
import DartLayers.Proofs.Merge.Series
import DartLayers.Proofs.Plan.Paths
import DartLayers.Proofs.Run.Approval
import DartLayers.Proofs.Run.Consent
import DartLayers.Proofs.Run.Contents
import DartLayers.Proofs.Run.Early
import DartLayers.Proofs.Run.Outcomes
import DartLayers.Proofs.Run.Repeat
import DartLayers.Proofs.Run.Silence
import DartLayers.Proofs.Run.Stages
import DartLayers.Proofs.Run.Succession
import DartLayers.Proofs.Session.Consent
import DartLayers.Proofs.Session.Dialogue
import DartLayers.Proofs.Steps
import DartLayers.Proofs.Template.Registry
import DartLayers.Proofs.Text.Names
import DartLayers.Run
import DartLayers.Run.Preparation
import DartLayers.Sample
import DartLayers.Sample.Exchange
import DartLayers.Schema
import DartLayers.Schema.Inference
import DartLayers.Session
import DartLayers.Settings
import DartLayers.Settings.Value
import DartLayers.Template
import DartLayers.Template.Data
import DartLayers.Template.Domain
import DartLayers.Template.Library
import DartLayers.Template.Network
import DartLayers.Template.Parts
import DartLayers.Template.Support
import DartLayers.Text.Blank
import DartLayers.Text.Casing
import DartLayers.Text.Casing.Context
import DartLayers.Text.Casing.Table
import DartLayers.Text.Digits
import DartLayers.Text.Letter
import DartLayers.Text.Lines
import DartLayers.Text.Number
import DartLayers.Text.Printable
import DartLayers.Text.Quoted
import DartLayers.Text.Split
import DartLayers.Text.Utf8
import DartLayers.Text.Words
import DartLayers.Validation
import DartLayers.Yaml.Character
import DartLayers.Yaml.Cursor
import DartLayers.Yaml.Document
import DartLayers.Yaml.Fault
import DartLayers.Yaml.Node
import DartLayers.Yaml.Scalar
import DartLayers.Yaml.Scalar.Base64
import DartLayers.Yaml.Scalar.Time
import DartLayers.Yaml.Tag
import DartLayers.Yaml.Token
import DartLayers.Yaml.Token.Directive
import DartLayers.Yaml.Token.Scalar
import DartLayers.Yaml.Token.Scan
import DartLayers.Proofs.Dart.Layers
import DartLayers.Proofs.Schema.Skeleton
import DartLayers.Proofs.Dart.Outline
import DartLayers.Proofs.Json.Document
import DartLayers.Proofs.Json.Reading
import DartLayers.Proofs.Plan.Outlines
import DartLayers.Proofs.Schema.Documents
import DartLayers.Proofs.Text.Cases
import DartLayers.Proofs.Plan.Safety
import DartLayers.Proofs.Endpoint.Query
import DartLayers.Proofs.Template.Shape
import DartLayers.Proofs.Plan.Readings
import DartLayers.Proofs.Plan.Independence
import DartLayers.Proofs.Dart.Names
import DartLayers.Proofs.Dart.Reading
import DartLayers.Proofs.Dart.Expressions
import DartLayers.Proofs.Template.Uses
import DartLayers.Proofs.Plan.Uses
import DartLayers.Proofs.Plan.Imports
import DartLayers.Proofs.Plan.Sheets
import DartLayers.Proofs.Plan.Closed
import DartLayers.Proofs.Manifest.Insertion
import DartLayers.Proofs.Run.Registration
import DartLayers.Proofs.Json.Locality
import DartLayers.Proofs.Json.LongInteger
import DartLayers.Proofs.Run.Samples
import DartLayers.Proofs.Text.Breaks
import DartLayers.Proofs.Dart.Asides
import DartLayers.Proofs.Template.Breaks
import DartLayers.Proofs.Template.Copies
import DartLayers.Proofs.Plan.Breaks
import DartLayers.Proofs.Dart.Identifiers
import DartLayers.Proofs.Dart.Scopes
import DartLayers.Proofs.Endpoint.Malformed
import DartLayers.Proofs.Run.Descriptions
import DartLayers.Proofs.FileTree.Lengths
import DartLayers.Proofs.Merge.Refusals
import DartLayers.Proofs.Run.Refusals
import DartLayers.Proofs.Plan.Literals
import DartLayers.Proofs.Plan.Shadows
import DartLayers.Proofs.Endpoint.Constant
import DartLayers.Proofs.Plan.Constants
import DartLayers.Proofs.Manifest.Placement
import DartLayers.Proofs.Schema.Layers
import DartLayers.Proofs.Schema.Places
import DartLayers.Proofs.Dart.Definitions
import DartLayers.Proofs.Endpoint.Agreement
import DartLayers.Proofs.Text.Lower
import DartLayers.Proofs.Run.BaseAddress
import DartLayers.Proofs.Text.Snake
import DartLayers.Proofs.Settings.Precedence
import DartLayers.Proofs.Json.Null
import DartLayers.Proofs.Sample.Body
import DartLayers.Proofs.Markup.Escape
import DartLayers.Proofs.Session.Entries
import DartLayers.Proofs.Run.Insets
import DartLayers.Proofs.Run.Entries
import DartLayers.Proofs.Program.Entries
import DartLayers.Proofs.Text.Boundaries
import DartLayers.Proofs.Yaml.Block
import DartLayers.Proofs.Yaml.Passage
import DartLayers.Proofs.Yaml.Scalars
import DartLayers.Proofs.Yaml.Scanning
import DartLayers.Proofs.Yaml.Composing
import DartLayers.Proofs.Yaml.Evaluation
import DartLayers.Proofs.Yaml.Values
import DartLayers.Proofs.Yaml.Entries
import DartLayers.Proofs.Manifest.Editing
import DartLayers.Proofs.Manifest.Extension
import DartLayers.Proofs.Manifest.ReadBack

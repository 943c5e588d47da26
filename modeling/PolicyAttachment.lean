import PolicyAttachment.Ancestry
import PolicyAttachment.Attachments
import PolicyAttachment.CommandLine
import PolicyAttachment.Decimal.Double
import PolicyAttachment.Decimal.Shortest
import PolicyAttachment.Descriptors
import PolicyAttachment.Document
import PolicyAttachment.Document.Json
import PolicyAttachment.Graph
import PolicyAttachment.Hierarchy
import PolicyAttachment.Invocation
import PolicyAttachment.Loader
import PolicyAttachment.LogFilter
import PolicyAttachment.Main
import PolicyAttachment.Manifest
import PolicyAttachment.Merge
import PolicyAttachment.Model
import PolicyAttachment.Policy
import PolicyAttachment.Problem
import PolicyAttachment.Proofs.Adjacency
import PolicyAttachment.Proofs.Ancestors
import PolicyAttachment.Proofs.Ascent
import PolicyAttachment.Proofs.Attached
import PolicyAttachment.Proofs.Backends
import PolicyAttachment.Proofs.Chain
import PolicyAttachment.Proofs.Completeness
import PolicyAttachment.Proofs.Conservation
import PolicyAttachment.Proofs.Construction
import PolicyAttachment.Proofs.Coverage
import PolicyAttachment.Proofs.Cycles
import PolicyAttachment.Proofs.Defaulting
import PolicyAttachment.Proofs.DisplayForms
import PolicyAttachment.Proofs.Effective
import PolicyAttachment.Proofs.FirstMention
import PolicyAttachment.Proofs.Identity
import PolicyAttachment.Proofs.Influence
import PolicyAttachment.Proofs.Intake
import PolicyAttachment.Proofs.Interleaving
import PolicyAttachment.Proofs.Links
import PolicyAttachment.Proofs.Loading
import PolicyAttachment.Proofs.NamelessReferences
import PolicyAttachment.Proofs.NamespaceNodes
import PolicyAttachment.Proofs.Observation
import PolicyAttachment.Proofs.ParentView
import PolicyAttachment.Proofs.Placement
import PolicyAttachment.Proofs.PolicyKinds
import PolicyAttachment.Proofs.Precedence
import PolicyAttachment.Proofs.Reading
import PolicyAttachment.Proofs.Rearrangement
import PolicyAttachment.Proofs.RecordReading
import PolicyAttachment.Proofs.Records
import PolicyAttachment.Proofs.ReferencePlaces
import PolicyAttachment.Proofs.ReferenceReading
import PolicyAttachment.Proofs.Repetition
import PolicyAttachment.Proofs.Replacement
import PolicyAttachment.Proofs.Resolution
import PolicyAttachment.Proofs.Selection
import PolicyAttachment.Proofs.SelectorGrammar
import PolicyAttachment.Proofs.Shape
import PolicyAttachment.Proofs.Sorting
import PolicyAttachment.Proofs.StatedFields
import PolicyAttachment.Proofs.StatedReferences
import PolicyAttachment.Proofs.Statements
import PolicyAttachment.Proofs.Stepping
import PolicyAttachment.Proofs.TargetIndex
import PolicyAttachment.Proofs.Unnaming
import PolicyAttachment.Ref
import PolicyAttachment.Reference
import PolicyAttachment.Report
import PolicyAttachment.Report.Encoding
import PolicyAttachment.Resource
import PolicyAttachment.Schema
import PolicyAttachment.Schema.GatewayApi
import PolicyAttachment.Schema.Kubernetes
import PolicyAttachment.Selector
import PolicyAttachment.Snapshot
import PolicyAttachment.SortedMap
import PolicyAttachment.Text.Alphanumeric
import PolicyAttachment.Text.Blank
import PolicyAttachment.Text.Digits
import PolicyAttachment.Text.Quoted
import PolicyAttachment.Text.Ranges
import PolicyAttachment.Text.Visible
import PolicyAttachment.View
import PolicyAttachment.Yaml.Cursor
import PolicyAttachment.Yaml.Node
import PolicyAttachment.Yaml.Node.Reader
import PolicyAttachment.Yaml.Printer
import PolicyAttachment.Yaml.Scalar
import PolicyAttachment.Yaml.Tag
import PolicyAttachment.Yaml.Token
import PolicyAttachment.Yaml.Token.Lexer
import PolicyAttachment.Yaml.Token.Mark
import PolicyAttachment.Yaml.Token.Scalar
import PolicyAttachment.Yaml.Value

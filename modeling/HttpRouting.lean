import HttpRouting.Text.CodeRange
import HttpRouting.Text.WordChar
import HttpRouting.Text.DecimalDigit
import HttpRouting.Text.Blank
import HttpRouting.Text.Digit
import HttpRouting.Text.Case
import HttpRouting.Text.Property
import HttpRouting.Regex.CharSet
import HttpRouting.Regex.Basic
import HttpRouting.Regex.Run
import HttpRouting.Regex.Scanner
import HttpRouting.Regex.Mode
import HttpRouting.Regex.Escape
import HttpRouting.Regex.Class
import HttpRouting.Regex.Token
import HttpRouting.Regex.Assembly
import HttpRouting.Regex.Pattern
import HttpRouting.Method
import HttpRouting.AttributeType.Basic
import HttpRouting.AttributeType.Registry
import HttpRouting.AttributeType.Builder
import HttpRouting.AttributeType.Calls
import HttpRouting.Path.Basic
import HttpRouting.Path.Fault
import HttpRouting.Path.Parser
import HttpRouting.Path.Validation
import HttpRouting.Path.Uri
import HttpRouting.Request
import HttpRouting.Route.Basic
import HttpRouting.Route.Table
import HttpRouting.Route.Calls
import HttpRouting.Matching.Strategy
import HttpRouting.Matching.Outcome
import HttpRouting.Matching.Program
import HttpRouting.Path.Derivation
import HttpRouting.Matching.Ways
import HttpRouting.Matching.Linear
import HttpRouting.Forest.Basic
import HttpRouting.Forest.Arena
import HttpRouting.Matching.TreeWalk
import HttpRouting.Matching.Notation
import HttpRouting.Matching.PatternPerRoute
import HttpRouting.Matching.MarkedPattern
import HttpRouting.Matching.Matcher
import HttpRouting.Router.Config
import HttpRouting.Router.Basic
import HttpRouting.Data
import HttpRouting.Toml.Layout
import HttpRouting.Toml.Quoted
import HttpRouting.Toml.Number
import HttpRouting.Toml.Moment
import HttpRouting.Toml.Key
import HttpRouting.Toml.Table
import HttpRouting.Toml.Value
import HttpRouting.Toml.Document
import HttpRouting.TableFile.Basic
import HttpRouting.TableFile.Loading
import HttpRouting.TableFile.Source
import HttpRouting.CommandLine.Style
import HttpRouting.CommandLine.Arguments
import HttpRouting.CommandLine.Fault
import HttpRouting.CommandLine.Assignment
import HttpRouting.CommandLine.Report
import HttpRouting.CommandLine.Directory
import HttpRouting.CommandLine.Plan
import HttpRouting.Main
import HttpRouting.Proofs.Lists
import HttpRouting.Proofs.Results
import HttpRouting.Proofs.Path.Validity
import HttpRouting.Proofs.Matching.Machine
import HttpRouting.Proofs.Matching.Recording
import HttpRouting.Proofs.Matching.Answers
import HttpRouting.Proofs.Matching.Linear
import HttpRouting.Proofs.Forest.Chains
import HttpRouting.Proofs.Forest.Layout
import HttpRouting.Proofs.Matching.Walk
import HttpRouting.Proofs.Regex.Scanning
import HttpRouting.Proofs.Regex.Lengths
import HttpRouting.Proofs.Regex.Reading
import HttpRouting.Proofs.Regex.Spelling
import HttpRouting.Proofs.Regex.Meaning
import HttpRouting.Proofs.AttributeType.Lengths
import HttpRouting.Proofs.Path.Splits
import HttpRouting.Proofs.AttributeType.Greedy
import HttpRouting.Proofs.Matching.Notation
import HttpRouting.Proofs.Matching.Spans
import HttpRouting.Proofs.Matching.PerRoute
import HttpRouting.Proofs.Matching.Represents
import HttpRouting.Proofs.Matching.Marked
import HttpRouting.Proofs.Matching.Preference
import HttpRouting.Proofs.Matching.Agreement
import HttpRouting.Proofs.Path.Definition
import HttpRouting.Proofs.Matching.Allowed
import HttpRouting.Proofs.Path.Uri
import HttpRouting.Proofs.Route.Registration
import HttpRouting.Proofs.Matching.Generation
import HttpRouting.Proofs.Regex.Characters
import HttpRouting.Proofs.AttributeType.Segment
import HttpRouting.Proofs.Path.Segments
import HttpRouting.Proofs.Matching.RoundTrip
import HttpRouting.Proofs.Matching.Growth
import HttpRouting.Proofs.Route.Calls
import HttpRouting.Proofs.Router.Uri
import HttpRouting.Matching.InPlace
import HttpRouting.Proofs.Forest.Merging
import HttpRouting.Proofs.Matching.InPlace
import HttpRouting.Proofs.Path.Levels
import HttpRouting.Proofs.Path.Refusals
import HttpRouting.Proofs.Path.Culprits
import HttpRouting.Proofs.TableFile.Loading
import HttpRouting.Proofs.TableFile.Removal
import HttpRouting.Matching.Nesting
import HttpRouting.Proofs.Matching.Balance
import HttpRouting.Proofs.Matching.Compiling
import HttpRouting.Proofs.Matching.Depth
import HttpRouting.Proofs.AttributeType.Languages
import HttpRouting.Proofs.Matching.Captures
import HttpRouting.Proofs.Request.Binding
import HttpRouting.Proofs.Router.Binding
import HttpRouting.Proofs.AttributeType.Building
import HttpRouting.Proofs.Forest.Subtrees
import HttpRouting.Proofs.Path.Ambiguity
import HttpRouting.Proofs.Matching.Factoring
import HttpRouting.Proofs.Matching.Subject

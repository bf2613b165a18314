import FieldRules.Alias
import FieldRules.Call
import FieldRules.Check
import FieldRules.Check.Effect
import FieldRules.Check.Leaf
import FieldRules.Check.Run
import FieldRules.Code
import FieldRules.Compile
import FieldRules.Errors
import FieldRules.Failure
import FieldRules.Failure.Description
import FieldRules.Fault
import FieldRules.Format.Date
import FieldRules.Format.Email
import FieldRules.Format.Ipv6
import FieldRules.Format.Url
import FieldRules.Log
import FieldRules.Log.Console
import FieldRules.Log.Conversion
import FieldRules.Log.Entry
import FieldRules.Log.Layout
import FieldRules.Log.Level
import FieldRules.Log.Record
import FieldRules.Log.Template
import FieldRules.Number
import FieldRules.Number.Binary64
import FieldRules.Number.Decimal
import FieldRules.Number.Numeral
import FieldRules.Number.Places
import FieldRules.Number.Scientific
import FieldRules.Number.Shortest
import FieldRules.Pattern
import FieldRules.Pattern.Accept
import FieldRules.Pattern.Escape
import FieldRules.Pattern.Item
import FieldRules.Pattern.Node
import FieldRules.Pattern.Problem
import FieldRules.Pattern.Reader
import FieldRules.Pattern.Search
import FieldRules.Pattern.Source
import FieldRules.Pattern.Start
import FieldRules.Proofs.Addresses
import FieldRules.Proofs.Alternatives
import FieldRules.Proofs.Bounds
import FieldRules.Proofs.Catalogue
import FieldRules.Proofs.Compile.Activation
import FieldRules.Proofs.Compile.Arguments
import FieldRules.Proofs.Compile.Built
import FieldRules.Proofs.Compile.Builtin
import FieldRules.Proofs.Compile.Calls
import FieldRules.Proofs.Compile.Failing
import FieldRules.Proofs.Compile.Inside
import FieldRules.Proofs.Compile.Kept
import FieldRules.Proofs.Compile.Levels
import FieldRules.Proofs.Compile.Limit
import FieldRules.Proofs.Compile.Meaning
import FieldRules.Proofs.Compile.Reached
import FieldRules.Proofs.Compile.Scope
import FieldRules.Proofs.Compile.Top
import FieldRules.Proofs.Composition
import FieldRules.Proofs.Dates
import FieldRules.Proofs.Decomposition
import FieldRules.Proofs.Defects
import FieldRules.Proofs.Depth
import FieldRules.Proofs.Elementwise
import FieldRules.Proofs.Error.Order
import FieldRules.Proofs.Error.Origin
import FieldRules.Proofs.Error.Path
import FieldRules.Proofs.Error.Shape
import FieldRules.Proofs.Except
import FieldRules.Proofs.Faults
import FieldRules.Proofs.Flattening
import FieldRules.Proofs.Grammar
import FieldRules.Proofs.Idempotence
import FieldRules.Proofs.Isolation
import FieldRules.Proofs.Locality
import FieldRules.Proofs.Log.Alike
import FieldRules.Proofs.Lookups
import FieldRules.Proofs.Mandatory
import FieldRules.Proofs.Number.Exact
import FieldRules.Proofs.Number.Literal
import FieldRules.Proofs.Number.Rounding
import FieldRules.Proofs.Number.Size
import FieldRules.Proofs.Numerals
import FieldRules.Proofs.ObjectLists
import FieldRules.Proofs.Optional
import FieldRules.Proofs.Options
import FieldRules.Proofs.Positions
import FieldRules.Proofs.Preparation
import FieldRules.Proofs.Redaction
import FieldRules.Proofs.Reentrance
import FieldRules.Proofs.Run.Chain
import FieldRules.Proofs.Run.Choice
import FieldRules.Proofs.Run.Fields
import FieldRules.Proofs.Run.Format
import FieldRules.Proofs.Run.Items
import FieldRules.Proofs.Run.Splice
import FieldRules.Proofs.Run.Trim
import FieldRules.Proofs.Session.Alike
import FieldRules.Proofs.Session.Failing
import FieldRules.Proofs.Session.Leaving
import FieldRules.Proofs.Session.Registering
import FieldRules.Proofs.Session.Turning
import FieldRules.Proofs.Session.Validating
import FieldRules.Proofs.Splicing
import FieldRules.Proofs.Termination
import FieldRules.Proofs.Trimming
import FieldRules.Proofs.Undescribed
import FieldRules.Proofs.Uniform
import FieldRules.Proofs.Value.Equality
import FieldRules.Proofs.Value.Parts
import FieldRules.Proofs.Wrapping
import FieldRules.Registry
import FieldRules.Result
import FieldRules.Rule.Arguments
import FieldRules.Rule.Builtin
import FieldRules.Rule.Catalogue
import FieldRules.Rule.Recipe
import FieldRules.Rule.Refusal
import FieldRules.Rule.Signature
import FieldRules.Session
import FieldRules.Session.Event
import FieldRules.Session.Store
import FieldRules.Settings
import FieldRules.Spec
import FieldRules.Text.Blank
import FieldRules.Text.Case
import FieldRules.Text.Case.Context
import FieldRules.Text.Case.Fold
import FieldRules.Text.Case.Mapping
import FieldRules.Text.CodeSet
import FieldRules.Text.Digit
import FieldRules.Text.Identifier
import FieldRules.Text.Letter
import FieldRules.Text.Name
import FieldRules.Text.Name.Alias
import FieldRules.Text.Name.EastAsian
import FieldRules.Text.Name.Historic
import FieldRules.Text.Name.Pictographs
import FieldRules.Text.Name.Scripts
import FieldRules.Text.Name.Symbols
import FieldRules.Text.Printable
import FieldRules.Text.Quoted
import FieldRules.Text.Split
import FieldRules.Text.Utf8
import FieldRules.Validator
import FieldRules.Value
import FieldRules.Value.Entries
import FieldRules.Value.Equality
import FieldRules.Value.Key
import FieldRules.Value.Order
import FieldRules.Value.Shown

import KeyCall.Chain
import KeyCall.Chain.Path
import KeyCall.Collection
import KeyCall.CommandLine.Page
import KeyCall.CommandLine.Report
import KeyCall.CommandLine.Request
import KeyCall.CommandLine.Word
import KeyCall.Decimal.Binary64
import KeyCall.Decimal.Shortest
import KeyCall.Dispatch
import KeyCall.Entries
import KeyCall.Error
import KeyCall.Event
import KeyCall.Files.Disk
import KeyCall.Files.Imports
import KeyCall.Files.Loading
import KeyCall.Files.Location
import KeyCall.Files.RegistryModule
import KeyCall.Host
import KeyCall.Json.Reading
import KeyCall.Json.Token
import KeyCall.Json.Writing
import KeyCall.Kit.Calls
import KeyCall.Kit.Catalogue
import KeyCall.Kit.Classes
import KeyCall.Kit.Modules
import KeyCall.Main
import KeyCall.Proofs.Chain.Writing
import KeyCall.Proofs.Collection.Acceptance
import KeyCall.Proofs.Collection.Trail
import KeyCall.Proofs.Collection.Walk
import KeyCall.Proofs.Dispatch.Failure
import KeyCall.Proofs.Dispatch.Support
import KeyCall.Proofs.Template.Property
import KeyCall.Proofs.Template.Reading
import KeyCall.Proofs.Template.Writing
import KeyCall.Proofs.Text.Run
import KeyCall.Registry
import KeyCall.Session
import KeyCall.Template.Argument
import KeyCall.Template.Basic
import KeyCall.Template.Cut
import KeyCall.Template.Property
import KeyCall.Template.Reading
import KeyCall.Text.Arrival
import KeyCall.Text.Blank
import KeyCall.Text.CodePoint
import KeyCall.Text.Digit
import KeyCall.Text.Printable
import KeyCall.Text.Quoted
import KeyCall.Text.Utf8
import KeyCall.Value.Basic
import KeyCall.Value.Shown
import KeyCall.Yaml.Cursor
import KeyCall.Yaml.Node
import KeyCall.Yaml.Plain
import KeyCall.Yaml.Reader
import KeyCall.Yaml.Reading
import KeyCall.Yaml.Scalar
import KeyCall.Yaml.Token
import KeyCall.Proofs.Template.Unambiguous
import KeyCall.Proofs.Collection.Meaning
import KeyCall.Proofs.Collection.Settled
import KeyCall.Proofs.Dispatch.Call
import KeyCall.Proofs.Chain.History
import KeyCall.Proofs.Dispatch.Dependence
import KeyCall.Proofs.Collection.Locality
import KeyCall.Proofs.Registry.History
import KeyCall.Proofs.Template.Form
import KeyCall.Proofs.Chain.Joint
import KeyCall.Proofs.Template.Padding
import KeyCall.Proofs.Files.Loads
import KeyCall.Proofs.CommandLine.Spelling
import KeyCall.Proofs.CommandLine.Outcome
import KeyCall.Proofs.Json.Document
import KeyCall.Proofs.Template.Listing
import KeyCall.Proofs.Dispatch.Resolution
import KeyCall.Proofs.Json.Token
import KeyCall.Proofs.Json.Reading
import KeyCall.Proofs.Text.Arrival
import KeyCall.Proofs.Files.Outcome
import KeyCall.Proofs.Collection.Everywhere
import KeyCall.Proofs.Json.Unit
import KeyCall.Proofs.Json.Contents
import KeyCall.Proofs.Yaml.Contents
import KeyCall.Proofs.Json.Outline
import KeyCall.Proofs.Json.Keys
import KeyCall.Proofs.Files.Contents
import KeyCall.Proofs.CommandLine.Printing
import KeyCall.Proofs.Template.Trimming
import KeyCall.Proofs.Chain.Descent
import KeyCall.Proofs.Collection.Overwriting
import KeyCall.Proofs.Files.Failure

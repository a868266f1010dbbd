import SearchIndex.Apply
import SearchIndex.Checksum
import SearchIndex.Command
import SearchIndex.Command.Arguments
import SearchIndex.Command.Run
import SearchIndex.Database.Catalog
import SearchIndex.Database.Exchange
import SearchIndex.Database.File
import SearchIndex.Database.Row
import SearchIndex.Database.Session
import SearchIndex.Database.Statement
import SearchIndex.Decimal.Integer
import SearchIndex.Decimal.Real
import SearchIndex.Decimal.Shortest
import SearchIndex.Definition
import SearchIndex.Definition.Document
import SearchIndex.Definition.Recovery
import SearchIndex.Definition.Statement
import SearchIndex.Definition.Validity
import SearchIndex.DefinitionSet
import SearchIndex.Document.Mismatch
import SearchIndex.Document.Record
import SearchIndex.FileTree
import SearchIndex.Index
import SearchIndex.Json
import SearchIndex.Json.Decode
import SearchIndex.Json.Reader
import SearchIndex.Json.Writer
import SearchIndex.LoadError
import SearchIndex.Main
import SearchIndex.Maintenance
import SearchIndex.Manifest
import SearchIndex.NameMap
import SearchIndex.Proofs.Apply.Settled
import SearchIndex.Proofs.Apply.Step
import SearchIndex.Proofs.Apply.Watched
import SearchIndex.Proofs.Checksum
import SearchIndex.Proofs.Checksum.Sha256
import SearchIndex.Proofs.Command.Apply
import SearchIndex.Proofs.Command.Convergence
import SearchIndex.Proofs.Command.Drops
import SearchIndex.Proofs.Command.Recording
import SearchIndex.Proofs.Database.Catalog
import SearchIndex.Proofs.Database.Server
import SearchIndex.Proofs.Decimal.Digits
import SearchIndex.Proofs.Decimal.Literal
import SearchIndex.Proofs.Definition.RoundTrip
import SearchIndex.Proofs.Definition.Validity
import SearchIndex.Proofs.FileTree
import SearchIndex.Proofs.Index
import SearchIndex.Proofs.Json.RoundTrip
import SearchIndex.Proofs.Manifest
import SearchIndex.Proofs.NameMap
import SearchIndex.Proofs.Result
import SearchIndex.Proofs.Search.Sanitize
import SearchIndex.Proofs.Search.Statements
import SearchIndex.Proofs.Sql.ArgumentList
import SearchIndex.Proofs.Sql.Quotation
import SearchIndex.Proofs.Sql.Reading
import SearchIndex.Proofs.Synchronization.Statements
import SearchIndex.Proofs.Text.Reading
import SearchIndex.Proofs.Text.Utf8
import SearchIndex.Proofs.Tokenizer.RoundTrip
import SearchIndex.Search.Query
import SearchIndex.Search.Request
import SearchIndex.Search.Sanitize
import SearchIndex.Settings
import SearchIndex.Sql.Quoted
import SearchIndex.Sql.Token
import SearchIndex.Sql.VirtualTable
import SearchIndex.Synchronization
import SearchIndex.Text.Alphanumeric
import SearchIndex.Text.Ascii
import SearchIndex.Text.Blank
import SearchIndex.Text.Display
import SearchIndex.Text.Fields
import SearchIndex.Text.Hex
import SearchIndex.Text.Utf8
import SearchIndex.Timestamp
import SearchIndex.Tokenizer
import SearchIndex.Tokenizer.Argument
import SearchIndex.Yaml.Directive
import SearchIndex.Yaml.Mark
import SearchIndex.Yaml.Node
import SearchIndex.Yaml.Resolve
import SearchIndex.Yaml.Scalar
import SearchIndex.Yaml.Tag
import SearchIndex.Yaml.Token
import SearchIndex.Yaml.Writer
import SearchIndex.Proofs.Apply.DryRun
import SearchIndex.Proofs.Index.Making
import SearchIndex.Proofs.Command.DryRun
import SearchIndex.Proofs.Command.Dropping
import SearchIndex.Proofs.Definition.Detection
import SearchIndex.Search.MatchExpression
import SearchIndex.Proofs.Search.ColumnFilter
import SearchIndex.Proofs.Json.Record
import SearchIndex.Proofs.Manifest.History
import SearchIndex.Proofs.Definition.Document
import SearchIndex.Proofs.DefinitionSet.Bundle
import SearchIndex.Proofs.Definition.Rules
import SearchIndex.Proofs.Search.Counting
import SearchIndex.Proofs.Command.Validation
import SearchIndex.Proofs.Index.Searching
import SearchIndex.Proofs.Definition.Recovery
import SearchIndex.Proofs.Sql.ArgumentPlace
import SearchIndex.Proofs.Sql.Spelling
import SearchIndex.Proofs.Tokenizer.Decoding
import SearchIndex.Proofs.Command.Searching
import SearchIndex.Proofs.Manifest.Difference
import SearchIndex.Proofs.FileTree.Listing
import SearchIndex.Proofs.Text.ByteOrder
import SearchIndex.Proofs.DefinitionSet.Gathering
import SearchIndex.Proofs.DefinitionSet.Tokenizers
import SearchIndex.Proofs.Maintenance
import SearchIndex.Proofs.Tokenizer.Arguments
import SearchIndex.Proofs.Sql.Boundary
import SearchIndex.Proofs.Sql.SelectList
import SearchIndex.Proofs.Index.ResultColumns
import SearchIndex.Proofs.Sql.Nesting
import SearchIndex.Proofs.Sql.Cutting

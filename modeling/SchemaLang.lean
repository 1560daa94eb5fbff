import SchemaLang.Compile
import SchemaLang.Document.Decode
import SchemaLang.Document.Encode
import SchemaLang.Main
import SchemaLang.Output.Application
import SchemaLang.Review.Report
import SchemaLang.Proofs.Review.Checks
import SchemaLang.Proofs.Review.WellFormed
import SchemaLang.Proofs.ForStd.Except
import SchemaLang.Proofs.Output.Emission
import SchemaLang.Proofs.Pairing.Slots
import SchemaLang.Proofs.Pairing.Ledger
import SchemaLang.Proofs.Schema.Identifier
import SchemaLang.Proofs.Pairing.Compiled
import SchemaLang.Proofs.Pairing.Keys
import SchemaLang.Proofs.Pairing.Partner
import SchemaLang.Proofs.Pairing.Backing
import SchemaLang.Proofs.Document.ReadBack
import SchemaLang.Proofs.Output.Inputs
import SchemaLang.Proofs.Output.IndexNames
import SchemaLang.Proofs.Source.Headers
import SchemaLang.Proofs.Review.Settled
import SchemaLang.Proofs.Output.References
import SchemaLang.Proofs.Text.AsciiCase
import SchemaLang.Proofs.Draft.Columns
import SchemaLang.Proofs.Pairing.Fields
import SchemaLang.Proofs.Source.References
import SchemaLang.Proofs.Source.Sections
import SchemaLang.Proofs.Draft.Locality
import SchemaLang.Proofs.Output.Groups
import SchemaLang.Proofs.Output.Paths
import SchemaLang.Proofs.Output.Forms
import SchemaLang.Proofs.Output.Links
import SchemaLang.Proofs.Pairing.ToldApart
import SchemaLang.Proofs.Output.Selects
import SchemaLang.Proofs.Output.SelfReferences
import SchemaLang.Proofs.Files.Directories
import SchemaLang.Proofs.Build.Writing
import SchemaLang.Proofs.Build.AllOrNothing
import SchemaLang.Proofs.Pairing.DefaultNames
import SchemaLang.Proofs.Pairing.OwnerOrder
import SchemaLang.Proofs.Output.Defaults
import SchemaLang.Proofs.Schema.DerivedIndices
import SchemaLang.Proofs.Source.Braces
import SchemaLang.Proofs.Source.Printing
import SchemaLang.Proofs.Draft.Declarations
import SchemaLang.Proofs.Output.ColumnIndices
import SchemaLang.Proofs.Draft.AttributeOrder
import SchemaLang.Proofs.Source.Level
import SchemaLang.Proofs.Source.Names
import SchemaLang.Proofs.Source.Opening
import SchemaLang.Proofs.Draft.Placement
import SchemaLang.Proofs.Output.QuotedValues
import SchemaLang.Proofs.Draft.Parameters
import SchemaLang.Proofs.Source.Items
import SchemaLang.Proofs.Review.Duplicates
import SchemaLang.Proofs.Draft.LetterCase
import SchemaLang.Proofs.Source.Spelling
import SchemaLang.Proofs.Source.Bytes
import SchemaLang.Proofs.Text.Utf8

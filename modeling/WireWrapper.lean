import WireWrapper.Accessor
import WireWrapper.Alignment
import WireWrapper.ClassWriter
import WireWrapper.Config
import WireWrapper.Config.Json
import WireWrapper.Decimal
import WireWrapper.Diagnostic
import WireWrapper.Diagnostic.Directive
import WireWrapper.Diagnostic.Filter
import WireWrapper.Diagnostic.Sink
import WireWrapper.Document
import WireWrapper.Document.Json
import WireWrapper.Documented
import WireWrapper.Failure
import WireWrapper.Field.Json
import WireWrapper.Generator
import WireWrapper.Generator.Load
import WireWrapper.Hierarchy
import WireWrapper.Hierarchy.Json
import WireWrapper.Json
import WireWrapper.Json.Reader
import WireWrapper.Json.Record
import WireWrapper.LogLevel
import WireWrapper.Message
import WireWrapper.Message.Json
import WireWrapper.Method
import WireWrapper.Method.Json
import WireWrapper.Modifier
import WireWrapper.Modifier.Builtin
import WireWrapper.Modifier.Json
import WireWrapper.Name
import WireWrapper.Pattern
import WireWrapper.Pattern.Mode
import WireWrapper.Pattern.Reader
import WireWrapper.Registry
import WireWrapper.Source
import WireWrapper.Text.Alphanumeric
import WireWrapper.Text.Blank
import WireWrapper.Text.Case
import WireWrapper.Text.CaseTable
import WireWrapper.Text.Digits
import WireWrapper.Text.Quoted
import WireWrapper.Text.Replace
import WireWrapper.Toml
import WireWrapper.Toml.Files
import WireWrapper.Toml.Quoted
import WireWrapper.Toml.Reader
import WireWrapper.Toml.Scalar
import WireWrapper.Toml.Tree
import WireWrapper.TypeText
import WireWrapper.WireOrder
import WireWrapper.WireOrder.Json
import WireWrapper.Proofs.WireOrder.LineBlocks
import WireWrapper.Proofs.MemoryOrder
import WireWrapper.Proofs.Slots
import WireWrapper.Proofs.ClassText.Methods
import WireWrapper.Proofs.ClassText.Members
import WireWrapper.Proofs.ClassText.Compose
import WireWrapper.Proofs.ClassText.Signatures
import WireWrapper.Proofs.WireOrder.LineMarkers
import WireWrapper.Proofs.ClassText.Warnings
import WireWrapper.Proofs.ScannedSlots
import WireWrapper.Proofs.Documented.ReadingOrder
import WireWrapper.Proofs.Documented.LastTable
import WireWrapper.Proofs.Documented.Written
import WireWrapper.Proofs.Warnings
import WireWrapper.Proofs.Documented.Balance
import WireWrapper.Proofs.ClassText.Balance
import WireWrapper.Proofs.Text.Rendered
import WireWrapper.Proofs.Text.Replaced
import WireWrapper.Proofs.Documented.Rendering
import WireWrapper.Proofs.Source.JavaInput
import WireWrapper.Proofs.ClassText.Comments
import WireWrapper.Proofs.Hierarchy.Ancestors
import WireWrapper.Proofs.Hierarchy.Inheritance
import WireWrapper.Proofs.Batch
import WireWrapper.Proofs.Text.PascalCase
import WireWrapper.Proofs.FileNames
import WireWrapper.Proofs.CheckedConfig
import WireWrapper.Proofs.Documented.Directions
import WireWrapper.Proofs.Registrations
import WireWrapper.Proofs.Diagnostic.Newest
import WireWrapper.Proofs.WireOrder.Reuse
import WireWrapper.Proofs.Text.Pieces
import WireWrapper.Proofs.Text.CaseImages
import WireWrapper.Proofs.Text.CommentText
import WireWrapper.Proofs.Source.Lines
import WireWrapper.Proofs.Source.TextLines
import WireWrapper.Proofs.Accessor
import WireWrapper.Proofs.ClassText.FileLines
import WireWrapper.Proofs.WireOrder.Declarations
import WireWrapper.Proofs.Catalog
import WireWrapper.Proofs.ClassText.AccessorPair
import WireWrapper.Proofs.Text.Deleted
import WireWrapper.Proofs.TypeText.Arrays
import WireWrapper.Proofs.TypeText.JavaTypes
import WireWrapper.Proofs.TypeText.NameTexts
import WireWrapper.Proofs.ClassText.DeclaredTypes
import WireWrapper.Proofs.Text.Seams
import WireWrapper.Proofs.TypeText.LeadingWords
import WireWrapper.Proofs.PacketId.Grammar
import WireWrapper.Proofs.Documented.Captions
import WireWrapper.Proofs.Source.Edits
import WireWrapper.Proofs.Source.Indentation
import WireWrapper.Proofs.Source.Desk
import WireWrapper.Proofs.ClassText.Staging
import WireWrapper.Proofs.Text.NormalForm
import WireWrapper.Proofs.Text.UpperImages
import WireWrapper.Proofs.AccessorNames
import WireWrapper.Proofs.Alignment
import WireWrapper.Proofs.Hierarchy.Ascents
import WireWrapper.Proofs.Text.AsciiImages
import WireWrapper.Proofs.ClassText.HeaderNames
import WireWrapper.Proofs.TypeText.Tokens
import WireWrapper.Proofs.Json.Records
import WireWrapper.Proofs.Json.Configs
import WireWrapper.Proofs.Json.Documents
import WireWrapper.Proofs.Json.Hierarchies
import WireWrapper.Proofs.Json.Messages
import WireWrapper.Proofs.Json.Methods
import WireWrapper.Proofs.Json.RoundTrip
import WireWrapper.Proofs.Source.Chunks
import WireWrapper.Proofs.Text.UpperTwice
import WireWrapper.Proofs.Documented.Respelling

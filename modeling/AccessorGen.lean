import AccessorGen.Artifact
import AccessorGen.Command.Arguments
import AccessorGen.Command.Run
import AccessorGen.Decimal
import AccessorGen.Digest.Sha256
import AccessorGen.Directive
import AccessorGen.Directive.Argument
import AccessorGen.Document
import AccessorGen.Fault
import AccessorGen.FieldType
import AccessorGen.FieldValue
import AccessorGen.Files.FileError
import AccessorGen.Files.FileTree
import AccessorGen.Files.OutputPath
import AccessorGen.Fragment
import AccessorGen.Json.Number
import AccessorGen.Json.Token
import AccessorGen.Json.Tree
import AccessorGen.Json.Value
import AccessorGen.Key.Descriptor
import AccessorGen.Key.Tokens
import AccessorGen.LocalTime
import AccessorGen.Main
import AccessorGen.NamingStyle
import AccessorGen.Proofs.Artifact
import AccessorGen.Proofs.Command.IncludedHeader
import AccessorGen.Proofs.Command.OutputNames
import AccessorGen.Proofs.Command.Regeneration
import AccessorGen.Proofs.Command.Update
import AccessorGen.Proofs.Command.WriteFrame
import AccessorGen.Proofs.Decimal
import AccessorGen.Proofs.FieldDomains
import AccessorGen.Proofs.Files.Directories
import AccessorGen.Proofs.Files.FileTree
import AccessorGen.Proofs.Files.OutputPath
import AccessorGen.Proofs.Json.Lexeme
import AccessorGen.Proofs.Json.Members
import AccessorGen.Proofs.Json.Source
import AccessorGen.Proofs.Key.Flaws
import AccessorGen.Proofs.Key.Grammar
import AccessorGen.Proofs.Key.Names
import AccessorGen.Proofs.Key.Printing
import AccessorGen.Proofs.Key.Symbols
import AccessorGen.Proofs.Module.AppendOnly
import AccessorGen.Proofs.Module.Deferral
import AccessorGen.Proofs.Module.DirectivePosition
import AccessorGen.Proofs.Module.FieldSymbols
import AccessorGen.Proofs.Module.Frame
import AccessorGen.Proofs.Module.IntegerStorage
import AccessorGen.Proofs.Module.MatchedPair
import AccessorGen.Proofs.Module.RealStorage
import AccessorGen.Proofs.Module.Signatures
import AccessorGen.Proofs.Module.StorageCapture
import AccessorGen.Proofs.Module.StringLength
import AccessorGen.Proofs.Module.StringStorage
import AccessorGen.Proofs.Module.Templates
import AccessorGen.Proofs.Module.ValueBlindness
import AccessorGen.Proofs.Module.WholeLines
import AccessorGen.Proofs.Module.Writer
import AccessorGen.Proofs.Readings
import AccessorGen.Proofs.RealConversion
import AccessorGen.Proofs.RealDomains
import AccessorGen.Proofs.Rounding
import AccessorGen.Proofs.Session.Accepted
import AccessorGen.Proofs.Session.Calls
import AccessorGen.Proofs.Session.ClashOrigin
import AccessorGen.Proofs.Session.ClosedForm
import AccessorGen.Proofs.Session.Culprits
import AccessorGen.Proofs.Session.FailingEntry
import AccessorGen.Proofs.Session.InputPaths
import AccessorGen.Proofs.Session.Meaning
import AccessorGen.Proofs.Session.Provenance
import AccessorGen.Proofs.Session.Reachable
import AccessorGen.Proofs.Session.Registry
import AccessorGen.Proofs.Session.SingleField
import AccessorGen.Proofs.Session.SymbolUniqueness
import AccessorGen.Proofs.Snippet.Canonical
import AccessorGen.Proofs.Snippet.Resolve
import AccessorGen.Proofs.Snippet.Substitution
import AccessorGen.Proofs.Text.BlankLines
import AccessorGen.Proofs.Text.BreakRuns
import AccessorGen.Proofs.Text.CIdentifier
import AccessorGen.Proofs.Text.CInteger
import AccessorGen.Proofs.Text.CLiteral
import AccessorGen.Proofs.Text.CNumber
import AccessorGen.Proofs.Text.Digits
import AccessorGen.Proofs.Text.Indentation
import AccessorGen.Proofs.Text.LineBreaks
import AccessorGen.Proofs.Text.Split
import AccessorGen.Proofs.Version
import AccessorGen.Revision
import AccessorGen.Session
import AccessorGen.Session.Module
import AccessorGen.Size
import AccessorGen.Snippet
import AccessorGen.Snippet.Template
import AccessorGen.Text.Blank
import AccessorGen.Text.BlankLines
import AccessorGen.Text.CLiteral
import AccessorGen.Text.CodeRange
import AccessorGen.Text.Digits
import AccessorGen.Text.LetterCase
import AccessorGen.Text.Numeral
import AccessorGen.Text.Split
import AccessorGen.Text.Utf8
import AccessorGen.Text.Word
import AccessorGen.Version

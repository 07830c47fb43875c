import FieldLayout.Charset
import FieldLayout.Fault
import FieldLayout.Json
import FieldLayout.Layout.Basic
import FieldLayout.Layout.FieldCursor
import FieldLayout.Layout.Json
import FieldLayout.Layout.Parser
import FieldLayout.Layout.Pattern
import FieldLayout.Layout.Printer
import FieldLayout.Layout.RawTokens
import FieldLayout.Pattern
import FieldLayout.Pattern.Bracket
import FieldLayout.Pattern.CharClass
import FieldLayout.Pattern.CharRanges
import FieldLayout.Pattern.Edge
import FieldLayout.Pattern.Expr
import FieldLayout.Pattern.Flags
import FieldLayout.Pattern.Footprint
import FieldLayout.Pattern.Glyph
import FieldLayout.Pattern.Plan
import FieldLayout.Pattern.Program
import FieldLayout.Pattern.Reader
import FieldLayout.Pattern.Room
import FieldLayout.Pattern.Search
import FieldLayout.Pattern.Symbol
import FieldLayout.Pattern.Verbose
import FieldLayout.Proofs.CaptureCount
import FieldLayout.Proofs.Layout.Canonical
import FieldLayout.Proofs.Layout.CanonicalText
import FieldLayout.Proofs.Layout.CaptureMarks
import FieldLayout.Proofs.Layout.Concatenation
import FieldLayout.Proofs.Layout.Cuts
import FieldLayout.Proofs.Layout.Divisions
import FieldLayout.Proofs.Layout.Erasure
import FieldLayout.Proofs.Layout.FaultPlaces
import FieldLayout.Proofs.Layout.FieldWalk
import FieldLayout.Proofs.Layout.FirstFault
import FieldLayout.Proofs.Layout.Grammar
import FieldLayout.Proofs.Layout.ImmediateNesting
import FieldLayout.Proofs.Layout.JsonRoundTrip
import FieldLayout.Proofs.Layout.JsonVariation
import FieldLayout.Proofs.Layout.Nesting
import FieldLayout.Proofs.Layout.PartByPart
import FieldLayout.Proofs.Layout.PatternPlan
import FieldLayout.Proofs.Layout.PatternReading
import FieldLayout.Proofs.Layout.PatternTree
import FieldLayout.Proofs.Layout.ReadBack
import FieldLayout.Proofs.Layout.RoundTrip
import FieldLayout.Proofs.Layout.Sequences
import FieldLayout.Proofs.Layout.TokenCursor
import FieldLayout.Proofs.Layout.WordPlaces
import FieldLayout.Proofs.Layout.Wrapping
import FieldLayout.Proofs.Pattern.Backtracking
import FieldLayout.Proofs.Pattern.Emission
import FieldLayout.Proofs.Pattern.Ways
import FieldLayout.Proofs.Recognition
import FieldLayout.Proofs.Refusal
import FieldLayout.Proofs.Token.Concatenation
import FieldLayout.Proofs.Token.Scanning
import FieldLayout.Proofs.Token.Segmentation
import FieldLayout.Recognizer
import FieldLayout.Token
import FieldLayout.Token.Lexer
import FieldLayout.Unicode.Age
import FieldLayout.Unicode.BinaryProperty
import FieldLayout.Unicode.Breaks
import FieldLayout.Unicode.CaseVariants
import FieldLayout.Unicode.CategoryNames
import FieldLayout.Unicode.GeneralCategory
import FieldLayout.Unicode.NamedSet
import FieldLayout.Unicode.Property
import FieldLayout.Unicode.Script
import FieldLayout.Unicode.Table
import FieldLayout.Unicode.Utf8
import FieldLayout.Unicode.WhiteSpace
import FieldLayout.Unicode.WordCharacters

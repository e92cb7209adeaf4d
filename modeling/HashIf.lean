import HashIf.CallStack
import HashIf.Command.Arguments
import HashIf.Command.Help
import HashIf.Command.Line
import HashIf.Command.Run
import HashIf.Condition.Chain
import HashIf.Condition.ConfigTest
import HashIf.Condition.Extended
import HashIf.Condition.Frames
import HashIf.Condition.Interpret
import HashIf.Condition.Options
import HashIf.Condition.Session
import HashIf.Condition.Strict
import HashIf.Console.Lines
import HashIf.Console.Table
import HashIf.Console.Tree
import HashIf.Decimal.Binary64
import HashIf.Decimal.Layout
import HashIf.Decimal.Numeral
import HashIf.Decimal.Shortest
import HashIf.Document.Json
import HashIf.Document.Toml
import HashIf.Document.Value
import HashIf.Export.Dot
import HashIf.Export.GraphML
import HashIf.Export.NodeLink
import HashIf.Expr
import HashIf.Expr.Brackets
import HashIf.Expr.Calls
import HashIf.Expr.Frames
import HashIf.Expr.Parse
import HashIf.Expr.Resolve
import HashIf.Fault
import HashIf.Formula
import HashIf.Formula.Evaluate
import HashIf.Formula.Graph
import HashIf.Formula.Text
import HashIf.Formula.Variables
import HashIf.Log
import HashIf.Main
import HashIf.Number
import HashIf.Operator
import HashIf.Proofs.Binding
import HashIf.Proofs.Looseness
import HashIf.Proofs.Resolution
import HashIf.Rejection
import HashIf.Settings.Schema
import HashIf.Settings.Source
import HashIf.Text.Alphanumeric
import HashIf.Text.Blank
import HashIf.Text.Emoji
import HashIf.Text.Emoji.Names
import HashIf.Text.Printable
import HashIf.Text.Quoted
import HashIf.Text.Width
import HashIf.Token
import HashIf.Token.Lexer
import HashIf.Proofs.Rightmost
import HashIf.Proofs.Bracketing
import HashIf.Proofs.Grammar
import HashIf.Proofs.Merging
import HashIf.Proofs.Costs
import HashIf.Proofs.BindingFrames
import HashIf.Proofs.Parsing
import HashIf.Proofs.Rounding
import HashIf.Proofs.Numerals
import HashIf.Proofs.Lexing
import HashIf.Proofs.ExtendedTree
import HashIf.Proofs.Rendering
import HashIf.Proofs.ResolvedTrees
import HashIf.Proofs.Phrases
import HashIf.Proofs.Spelling
import HashIf.Proofs.RoundTrip
import HashIf.Proofs.Rereading
import HashIf.Proofs.TreeText
import HashIf.Proofs.Evaluation
import HashIf.Proofs.StrictTree
import HashIf.Proofs.Meaning
import HashIf.Proofs.Skeleton
import HashIf.Proofs.Abstraction
import HashIf.Proofs.Sessions
import HashIf.Proofs.Lexemes
import HashIf.Proofs.Composition
import HashIf.Proofs.Balance
import HashIf.Proofs.LexFaults
import HashIf.Proofs.Outcomes
import HashIf.Proofs.Policies
import HashIf.Proofs.TextPlaces
import HashIf.Proofs.Tokenization
import HashIf.Proofs.InOrder
import HashIf.Proofs.FaultPlaces
import HashIf.Proofs.Reports
import HashIf.Proofs.VariableNames
import HashIf.Proofs.PlainReadings
import HashIf.Proofs.ReadingLanguages
import HashIf.Proofs.Spacing
import HashIf.Proofs.OperatorSymbols
import HashIf.Proofs.NeededBrackets
import HashIf.Proofs.Preorder
import HashIf.Proofs.Support
import HashIf.Proofs.Numbering
import HashIf.Proofs.NodeLinkText
import HashIf.Proofs.Recovery
import HashIf.Proofs.WiderOptions
import HashIf.Proofs.NumeralLanguage
import HashIf.Proofs.PlainNumbers
import HashIf.Proofs.Overflow
import HashIf.Proofs.WritingBack
import HashIf.Proofs.SettingKeys
import HashIf.Proofs.ComparisonNames
import HashIf.Proofs.PlainTexts
import HashIf.Proofs.JoinedTrees
import HashIf.Proofs.Runs
import HashIf.Proofs.ShownTrees
import HashIf.Proofs.PrintedNames

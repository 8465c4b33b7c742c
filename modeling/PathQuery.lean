import PathQuery.Document.Json.Writer
import PathQuery.Main
import PathQuery.Proofs.Alignment.Levels
import PathQuery.Proofs.Alignment.Moves
import PathQuery.Proofs.Alignment.Underflow
import PathQuery.Proofs.Query.BareDot
import PathQuery.Proofs.Query.Glob
import PathQuery.Proofs.Search.BreadthFirst
import PathQuery.Proofs.Search.HandOver
import PathQuery.Proofs.Tree.Printed
import PathQuery.Proofs.Query.Literal
import PathQuery.Proofs.Query.PlainPath
import PathQuery.Proofs.Tree.LiteralPath
import PathQuery.Proofs.Search.Family
import PathQuery.Proofs.Tree.Forest
import PathQuery.Proofs.Document.ValueForest
import PathQuery.Proofs.Query.Widening
import PathQuery.Proofs.Search.Taking
import PathQuery.Proofs.Tree.Loaded
import PathQuery.Proofs.CommandLine.Ending
import PathQuery.Proofs.Toml.Characters
import PathQuery.Proofs.Toml.Strings
import PathQuery.Proofs.Toml.Words
import PathQuery.Proofs.Toml.Entries
import PathQuery.Proofs.Settings.Text
import PathQuery.Proofs.Files.Writing
import PathQuery.Proofs.Settings.Storage
import PathQuery.Proofs.Query.GrepBracket
import PathQuery.Proofs.Query.GrepExpression
import PathQuery.Proofs.Tree.Lineage
import PathQuery.Proofs.Query.Loosening
import PathQuery.Proofs.Alignment.Bounds
import PathQuery.Proofs.Tree.Arena
import PathQuery.Proofs.Load.Compressed
import PathQuery.Proofs.Json.RoundTrip

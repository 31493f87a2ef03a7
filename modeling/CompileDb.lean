import CompileDb.Database.Step
import CompileDb.Main
import CompileDb.Proofs.Words.RoundTrip
import CompileDb.Text.Alphanumeric
import CompileDb.Toml.Division
import CompileDb.Proofs.Words.Stretches
import CompileDb.Proofs.Ast.Positions
import CompileDb.Proofs.Switch.Positions
import CompileDb.Proofs.Recipe.Arrangement
import CompileDb.Proofs.Recipe.Decoding
import CompileDb.Proofs.Survey.Accounts
import CompileDb.Proofs.Database.History
import CompileDb.Proofs.Words.ShownLines
import CompileDb.Proofs.Survey.Visitors
import CompileDb.Proofs.CommandLine.Lookup
import CompileDb.Proofs.CommandLine.Endings
import CompileDb.Proofs.Settings.Loading
import CompileDb.Proofs.Entries.Checks
import CompileDb.Proofs.Recipe.Occurrences
import CompileDb.Proofs.Recipe.Rereading
import CompileDb.Proofs.Switch.Concatenation
import CompileDb.Proofs.Ast.IgnoredKinds
import CompileDb.Proofs.Recipe.Selection
import CompileDb.Proofs.Settings.Merging
import CompileDb.Proofs.Survey.Agreement
import CompileDb.Proofs.CommandLine.Configuration
import CompileDb.Proofs.Words.Unmarked
import CompileDb.Proofs.Database.TestSources
import CompileDb.Proofs.Database.LoadEndings
import CompileDb.Proofs.Markup.Groups
import CompileDb.Proofs.Markup.Lines
import CompileDb.Proofs.Ast.NodeLines
import CompileDb.Proofs.Switch.Definitions
import CompileDb.Proofs.Switch.RuleOrder
import CompileDb.Proofs.Recipe.AnchoredSource
import CompileDb.Proofs.Toml.Names
import CompileDb.Proofs.Settings.Sections

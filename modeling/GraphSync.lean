import GraphSync.Bolt
import GraphSync.CommandLine.Scope
import GraphSync.Definition.Load
import GraphSync.Files.Tree
import GraphSync.Main
import GraphSync.Proofs.Batching.Agreement
import GraphSync.Proofs.Batching.Links
import GraphSync.Proofs.Batching.Nodes
import GraphSync.Proofs.Batching.Sizes
import GraphSync.Proofs.Cleanup.Count
import GraphSync.Proofs.Cleanup.Job
import GraphSync.Proofs.Cleanup.Once
import GraphSync.Proofs.Cleanup.Reach
import GraphSync.Proofs.Cleanup.Scope
import GraphSync.Proofs.Cleanup.Sweep
import GraphSync.Proofs.Cleanup.Termination
import GraphSync.Proofs.Cleanup.Windows
import GraphSync.Proofs.Definition.RoundTrip
import GraphSync.Proofs.Graph.Matcher
import GraphSync.Proofs.Graph.Same
import GraphSync.Proofs.Graph.Session
import GraphSync.Proofs.Indexes.Coverage
import GraphSync.Proofs.Indexes.Lookups
import GraphSync.Proofs.Indexes.Order
import GraphSync.Proofs.Ingestion.Extension
import GraphSync.Proofs.Ingestion.Idempotence
import GraphSync.Proofs.Ingestion.LastWrite
import GraphSync.Proofs.Ingestion.Links
import GraphSync.Proofs.Ingestion.Load
import GraphSync.Proofs.Ingestion.Marks
import GraphSync.Proofs.Ingestion.Nodes
import GraphSync.Proofs.Ingestion.Outcome
import GraphSync.Proofs.Ingestion.OwnWrites
import GraphSync.Proofs.Ingestion.Passes
import GraphSync.Proofs.Ingestion.Population
import GraphSync.Proofs.Ingestion.Postcondition
import GraphSync.Proofs.Ingestion.Progress
import GraphSync.Proofs.Ingestion.Strokes
import GraphSync.Proofs.Ingestion.Writing
import GraphSync.Proofs.Lexing.Compiled
import GraphSync.Proofs.Lexing.Delimiting
import GraphSync.Proofs.Lexing.Expansion
import GraphSync.Proofs.Lexing.Legible
import GraphSync.Proofs.Lexing.Lexer
import GraphSync.Proofs.Lexing.Lossless
import GraphSync.Proofs.Lexing.Names
import GraphSync.Proofs.Lexing.Parameters
import GraphSync.Proofs.Lexing.Plain
import GraphSync.Proofs.Lexing.Printer
import GraphSync.Proofs.Run.Assignments
import GraphSync.Proofs.Run.Batches
import GraphSync.Proofs.Run.Binding
import GraphSync.Proofs.Run.Conversion
import GraphSync.Proofs.Run.DeclaredTypes
import GraphSync.Proofs.Run.Failure
import GraphSync.Proofs.Run.References
import GraphSync.Proofs.Run.Refusal
import GraphSync.Proofs.Run.Requirements
import GraphSync.Proofs.Schema.Checks
import GraphSync.Proofs.Schema.Matchlinks
import GraphSync.Proofs.Schema.Nodes
import GraphSync.Proofs.Scoping.Compiled
import GraphSync.Proofs.Scoping.Execution
import GraphSync.Proofs.Scoping.Rules
import GraphSync.Proofs.Tenants.Links
import GraphSync.Proofs.Tenants.Markers
import GraphSync.Proofs.Tenants.Nodes
import GraphSync.Proofs.Tenants.Owners
import GraphSync.Proofs.Tenants.Run
import GraphSync.Report.Summary
import GraphSync.Run.Assignment
import GraphSync.Run.Cleanup

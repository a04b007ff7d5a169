import TypeProbe.Diagnostic.Host
import TypeProbe.Print.Tree
import TypeProbe.Resolution
import TypeProbe.Session
import TypeProbe.Tree.Snapshot
import TypeProbe.Proofs.Resolution.Settled
import TypeProbe.Proofs.Grammar.Binding
import TypeProbe.Proofs.Grammar.Derivations
import TypeProbe.Proofs.Grammar.Printing
import TypeProbe.Proofs.Resolution.Outline
import TypeProbe.Proofs.Resolution.Reports
import TypeProbe.Proofs.Resolution.Tour
import TypeProbe.Proofs.Resolution.Requests
import TypeProbe.Proofs.Resolution.Sites
import TypeProbe.Proofs.Print.Layout
import TypeProbe.Proofs.Resolution.Layouts
import TypeProbe.Proofs.Resolution.Frame
import TypeProbe.Proofs.Reading.Programs
import TypeProbe.Proofs.Attribution.Shared
import TypeProbe.Proofs.Evaluation.Incidents
import TypeProbe.Proofs.Session.Capture
import TypeProbe.Proofs.Tree.Parts
import TypeProbe.Proofs.Print.Order
import TypeProbe.Proofs.Resolution.DocumentOrder
import TypeProbe.Proofs.Resolution.Constructions
import TypeProbe.Proofs.Resolution.Commuting
import TypeProbe.Proofs.Grammar.Constructors
import TypeProbe.Proofs.Lexical.Programs
import TypeProbe.Proofs.Diagnostic.Loading
import TypeProbe.Proofs.Print.Faults
import TypeProbe.Proofs.Print.FunctionStart
import TypeProbe.Proofs.Print.Spaces
import TypeProbe.Proofs.Print.Independence
import TypeProbe.Proofs.Attribution.Exact
import TypeProbe.Proofs.Evaluation.Thrown
import TypeProbe.Proofs.Snapshot.Faithful

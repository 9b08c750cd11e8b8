import PathJail.Config.Printer
import PathJail.Host.Fixed
import PathJail.Host.Planting
import PathJail.Main
import PathJail.Proofs.Path.Normal
import PathJail.Proofs.Path.Segments
import PathJail.Proofs.Path.Tidy
import PathJail.Proofs.Path.Composition
import PathJail.Proofs.Text.Order
import PathJail.Proofs.Text.Boundary
import PathJail.Proofs.Text.Lossy
import PathJail.Proofs.Dialogue.Courses
import PathJail.Proofs.Dialogue.Runs
import PathJail.Proofs.Dialogue.Reports
import PathJail.Proofs.Dialogue.Alike
import PathJail.Proofs.Dialogue.Interrupts
import PathJail.Proofs.Log.Printable
import PathJail.Proofs.Json.Tokens
import PathJail.Proofs.Json.Lexemes
import PathJail.Proofs.Json.Readers
import PathJail.Proofs.Config.RoundTrip
import PathJail.Proofs.Resolver.Placement
import PathJail.Proofs.Resolver.Reachable
import PathJail.Proofs.Resolver.Crossing
import PathJail.Proofs.Resolver.Entries
import PathJail.Proofs.Resolver.Length
import PathJail.Proofs.Resolver.TableOrder
import PathJail.Proofs.Resolver.Contained
import PathJail.Proofs.Session.Reachable
import PathJail.Proofs.Session.Containment
import PathJail.Proofs.Session.Deletion
import PathJail.Proofs.Session.Listing
import PathJail.Proofs.Session.Orderly
import PathJail.Proofs.Session.WorkingDirectory
import PathJail.Proofs.Session.Diagnostics
import PathJail.Proofs.Session.LinkWalk
import PathJail.Proofs.Session.Relabelling
import PathJail.Proofs.Session.Translation
import PathJail.Proofs.Session.ListedAliases
import PathJail.Proofs.Session.LinkDepth
import PathJail.Proofs.Session.Failures
import PathJail.Proofs.Session.TableOrder
import PathJail.Proofs.Session.Registering
import PathJail.Proofs.Session.SelfAliases
import PathJail.Proofs.Session.Engine
import PathJail.Proofs.Session.Handles
import PathJail.Proofs.Session.Teardown
import PathJail.Proofs.Session.Confining
import PathJail.Proofs.Command.Resolve
import PathJail.Proofs.Session.Interrupts

import Introspect.Main
import Introspect.Session.Answer
import Introspect.Session.Standalone
import Introspect.Proofs.Dispatch.Signature
import Introspect.Proofs.Acting
import Introspect.Proofs.Dispatch.Enter
import Introspect.Proofs.Dispatch.Records
import Introspect.Proofs.Dispatch.Resolve
import Introspect.Proofs.Dispatch.Steps
import Introspect.Proofs.Dispatch.Exact
import Introspect.Proofs.Hierarchy.Growth
import Introspect.Proofs.Modules.Descendants
import Introspect.Proofs.Reflection.Backedges
import Introspect.Proofs.Session.Callers
import Introspect.Proofs.Session.Invalidation
import Introspect.Proofs.Session.Choices
import Introspect.Proofs.Session.Listing
import Introspect.Proofs.Storage.Insertions
import Introspect.Proofs.Modules.Discover
import Introspect.Proofs.Session.Layouts
import Introspect.Proofs.Modules.Globals
import Introspect.Proofs.Modules.Inventory
import Introspect.Proofs.Reflection.Grouping
import Introspect.Proofs.Session.Dependents
import Introspect.Proofs.Hierarchy.Virtual
import Introspect.Proofs.Dispatch.Unbeaten
import Introspect.Proofs.Dispatch.Filter
import Introspect.Proofs.Session.Filtered
import Introspect.Proofs.Storage.Doubling
import Introspect.Proofs.Reflection.Containment
import Introspect.Proofs.Dispatch.Refined
import Introspect.Proofs.Session.Registered
import Introspect.Proofs.Modules.Scopes
import Introspect.Proofs.Modules.Widening
import Introspect.Proofs.Modules.Enumerations
import Introspect.Proofs.Modules.Independence
import Introspect.Proofs.Session.KeptLookups
import Introspect.Proofs.Source.Declarations
import Introspect.Proofs.Source.Agreement
import Introspect.Proofs.Dispatch.Arity
import Introspect.Proofs.Dispatch.Annotations
import Introspect.Proofs.Command.Unresolved
import Introspect.Proofs.Settings.Explicit
import Introspect.Proofs.Command.Tables
import Introspect.Proofs.Settings.Nearest
import Introspect.Proofs.Session.Lineage
import Introspect.Proofs.Console.Indented
import Introspect.Proofs.Hierarchy.Descent
import Introspect.Proofs.Session.Trees
import Introspect.Proofs.Storage.Paths
import Introspect.Proofs.Source.FinalTexts
import Introspect.Proofs.Dispatch.Order
import Introspect.Proofs.Console.Routing

import PatchStore.Document.Article
import PatchStore.Document.Category
import PatchStore.Json.Printer
import PatchStore.Json.Reader
import PatchStore.Proofs.Command.WireForm
import PatchStore.Proofs.Conventions.Hyphens
import PatchStore.Proofs.Conventions.PrefixCache
import PatchStore.Proofs.Json.NullMembers
import PatchStore.Proofs.Metadata.Agreement
import PatchStore.Proofs.Options.Writing
import PatchStore.Proofs.Patch.Commuting
import PatchStore.Proofs.Schema.Arrangement
import PatchStore.Proofs.Schema.DistinctNames
import PatchStore.Proofs.Schema.Nameless
import PatchStore.Proofs.Schema.Uninterpreted
import PatchStore.Proofs.Schema.Wrappers
import PatchStore.Proofs.Script.Parameters
import PatchStore.Proofs.Selector.RawNames
import PatchStore.Proofs.Session.GuardedUpdate
import PatchStore.Proofs.Session.Lookups
import PatchStore.Proofs.Session.Operations
import PatchStore.Proofs.Store.Independence
import PatchStore.Proofs.Store.KeyCase
import PatchStore.Proofs.Store.Modification
import PatchStore.Proofs.Store.Reporting

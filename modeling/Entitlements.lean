import Entitlements.Display
import Entitlements.Main
import Entitlements.Proofs.Catalog
import Entitlements.Proofs.Catalog.Export
import Entitlements.Proofs.Catalog.Size
import Entitlements.Proofs.Configuration
import Entitlements.Proofs.Definition.Leaves
import Entitlements.Proofs.Dictionary.Loads
import Entitlements.Proofs.Display.Groups
import Entitlements.Proofs.Grant.Extension
import Entitlements.Proofs.Grant.Items
import Entitlements.Proofs.Grant.Pieces
import Entitlements.Proofs.Grant.WrittenBack
import Entitlements.Proofs.ItemTable.Contributions
import Entitlements.Proofs.Json.Ends
import Entitlements.Proofs.Json.RoundTrip
import Entitlements.Proofs.Labeller.Fallback
import Entitlements.Proofs.Labeller.Untranslated
import Entitlements.Proofs.Labeller.WordOrder
import Entitlements.Proofs.Roles
import Entitlements.Proofs.Store.Batches
import Entitlements.Proofs.Store.Contents
import Entitlements.Proofs.Store.Failures
import Entitlements.Proofs.Store.Replacement
import Entitlements.Proofs.Sync
import Entitlements.Proofs.Sync.Contents
import Entitlements.Proofs.Sync.GuardList
import Entitlements.Proofs.Sync.Guards
import Entitlements.Proofs.Sync.Repetition
import Entitlements.Proofs.Web.Screen
import Entitlements.Proofs.Web.Transcript
import Entitlements.Web.Service
import Entitlements.Proofs.Labeller.Keys
import Entitlements.Proofs.Labeller.Separators
import Entitlements.Proofs.Display.Resources
import Entitlements.Proofs.Web.GuardName

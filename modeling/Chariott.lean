import Chariott.Registry.Entities
import Chariott.Registry.Namespace
import Chariott.Registry.Upsert
import Chariott.Registry.Prune
import Chariott.Registry.Rebind
import Chariott.Registry.Outcome
import Chariott.Registry.Catalog
import Chariott.Registry.Refinement
import Chariott.Registry.NetDiff
import Chariott.Registry.Lifecycle
import Chariott.Registry.Mirror
import Chariott.CarBridge.Messaging

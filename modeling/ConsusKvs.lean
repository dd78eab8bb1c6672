import ConsusKvs.Wire
import ConsusKvs.Types
import ConsusKvs.Daemon
import ConsusKvs.Instances
import ConsusKvs.Handlers
import ConsusKvs.Run
import ConsusKvs.Migration
import ConsusKvs.Lifecycle
import ConsusKvs.Split
import ConsusKvs.ConfigStores
import ConsusKvs.Theorems.Partitions
import ConsusKvs.Theorems.Codecs
import ConsusKvs.Theorems.RawRequests
import ConsusKvs.Theorems.Replicators
import ConsusKvs.Theorems.Configuration
import ConsusKvs.Theorems.MigrationRounds
import ConsusKvs.Theorems.Migrators
import ConsusKvs.Theorems.Startup
import ConsusKvs.Theorems.Progress
import ConsusKvs.Theorems.Lifetime
import ConsusKvs.Theorems.Storage
import ConsusKvs.Theorems.ConfigStores

import ConsusKvs.Daemon

/-!
# One instance of each parameter

Every statement holds for every choice of the constants, the configuration and the data layer. A statement that
assumes something of its inputs is also applied once where the assumption holds; these are the inputs it is applied
to: constants with a byte per message type and two per return code, configurations that are only their version, a data
layer that holds nothing, and a daemon with such a configuration.
-/

namespace ConsusKvs

/-- A choice of the constants: a message type is one byte, its position in `daemon::loop`'s list. -/
def Constants.sample : Constants where
  busybeeHeaderSize := 8
  msgtypeWidth := 1
  msgtypeValue := NetworkMsgtype.toCtorIdx
  msgtypeValue_injective a b h := by rw [← a.ofNat_toCtorIdx, h, b.ofNat_toCtorIdx]
  msgtypeValue_lt t := by cases t <;> decide
  returncodeWidth := 2
  consusSuccess := 0
  consusMaxReplicationFactor := 9
  consusKvsPartitions := 65536
  consusWriteTombstone := 1
  transactionIdWidth := 24
  lockTWidth := 1
  lockOpWidth := 1

/-- A configuration that is only its version: one data center, every index owned by server `0`, nothing hashed, and
the partition named by the version migratable. -/
def ConfigOps.versionOnly : ConfigOps VersionId where
  unpack := unpackVersionId
  version c := c
  getDataCenter _ _ := ⟨0⟩
  map _ _ _ := (⟨0⟩, ⟨0⟩)
  hash _ _ _ := none
  migratablePartitions c _ := [⟨c.val⟩]

/-- A configuration that is only its version, in which this server's data center is the version, and the first owner of
every index is named after the configuration and the data center asked about. -/
def ConfigOps.byDataCenter : ConfigOps VersionId where
  unpack := unpackVersionId
  version c := c
  getDataCenter c _ := ⟨c.val⟩
  map c dc _ := (⟨c.val * 16 + dc.val⟩, ⟨0⟩)
  hash _ _ _ := none
  migratablePartitions c _ := [⟨c.val⟩]

/-- A configuration that is only its version and hashes every index to seven replicas named after it, two more than
`choose_replicas` wants. -/
def ConfigOps.sevenReplicas : ConfigOps VersionId :=
  { ConfigOps.versionOnly with hash := fun _ _ index => some ((List.range 7).map fun i => ⟨(index * 8 + i).toUInt64⟩) }

/-- A data layer that holds nothing and accepts every write. -/
def DataLayer.empty (K : Constants) : DataLayer K Unit where
  get _ _ _ timestamp := (K.consusSuccess, timestamp, [])
  put _ _ _ _ _ := (K.consusSuccess, ())
  del _ _ _ _ := (K.consusSuccess, ())

/-- A message of type `t` as a peer packs it under the sample constants: the eight header bytes the transport fills
in, the type's byte, then the payload. -/
def Constants.sampleRequest (t : NetworkMsgtype) (payload : Bytes) : Buffer :=
  (Buffer.create (8 + 1 + payload.length)).packAt 8 (Constants.sample.packMsgtype t ++ payload)

/-- A daemon of server `1` at configuration `v`, with no replicator and no migrator. -/
def Daemon.sample (v : VersionId) : Daemon VersionId Unit :=
  ⟨⟨⟨1⟩, ⟨0⟩⟩, v, (), .empty, .empty, .empty, false⟩

end ConsusKvs

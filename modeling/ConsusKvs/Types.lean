import ConsusKvs.Wire

/-!
# Message types, identifiers and the constants the daemon uses

`common/network_msgtype.h`, `common/ids.h`, `common/constants.h`, `consus.h` and `busybee_constants.h` are not part
of the source. What the daemon takes from them is gathered in `Constants`, a parameter of every statement: the header
size of the transport, the two enumerations it puts on the wire (their values and the width each is packed at), and
the partition and replication constants. The spec's section 6 gives the rest: an identifier is a single `u64`.

The values of `network_msgtype` are distinct: `daemon::loop` has a case label for every one of them, and C++ rejects a
switch with two equal labels. They fit the width they are packed at. Both facts are fields of `Constants`, so no
statement assumes them again.
-/

namespace ConsusKvs

/-- The message types of `common/network_msgtype.h`, in the order `daemon::loop` lists them. -/
inductive NetworkMsgtype where
  | kvsRepRd | kvsRepWr | kvsRawRd | kvsRawRdResp | kvsRawWr | kvsRawWrResp | kvsLockOp | kvsMigrateSyn
  | kvsMigrateAck | consusNop | clientResponse | unsafeRead | unsafeWrite | unsafeLockOp | txmanBegin | txmanRead
  | txmanWrite | txmanCommit | txmanAbort | txmanPaxos2a | txmanPaxos2b | lvVote1a | lvVote1b | lvVote2a | lvVote2b
  | lvVoteLearn | commitRecord | gvPropose | gvVote1a | gvVote1b | gvVote2a | gvVote2b | kvsRepRdResp | kvsRepWrResp
  | kvsLockOpResp
  deriving DecidableEq, Repr

namespace NetworkMsgtype

/-- Every message type. -/
def all : List NetworkMsgtype :=
  [kvsRepRd, kvsRepWr, kvsRawRd, kvsRawRdResp, kvsRawWr, kvsRawWrResp, kvsLockOp, kvsMigrateSyn, kvsMigrateAck,
    consusNop, clientResponse, unsafeRead, unsafeWrite, unsafeLockOp, txmanBegin, txmanRead, txmanWrite, txmanCommit,
    txmanAbort, txmanPaxos2a, txmanPaxos2b, lvVote1a, lvVote1b, lvVote2a, lvVote2b, lvVoteLearn, commitRecord,
    gvPropose, gvVote1a, gvVote1b, gvVote2a, gvVote2b, kvsRepRdResp, kvsRepWrResp, kvsLockOpResp]

theorem mem_all (t : NetworkMsgtype) : t ∈ all := by
  cases t <;> decide

end NetworkMsgtype

/-- What the daemon takes from the headers that are not part of the source. -/
structure Constants where
  /-- `BUSYBEE_HEADER_SIZE`: the bytes the transport keeps in front of every message. -/
  busybeeHeaderSize : Nat
  /-- The bytes a `network_msgtype` is packed into; `pack_size` of every message type. -/
  msgtypeWidth : Nat
  /-- The value of each enumerator of `network_msgtype`. -/
  msgtypeValue : NetworkMsgtype → Nat
  msgtypeValue_injective : Function.Injective msgtypeValue
  msgtypeValue_lt : ∀ t, msgtypeValue t < 256 ^ msgtypeWidth
  /-- The bytes a `consus_returncode` is packed into; its `pack_size`. -/
  returncodeWidth : Nat
  /-- `CONSUS_SUCCESS`. -/
  consusSuccess : Fin (256 ^ returncodeWidth)
  /-- `CONSUS_MAX_REPLICATION_FACTOR`. -/
  consusMaxReplicationFactor : Nat
  /-- `CONSUS_KVS_PARTITIONS`. -/
  consusKvsPartitions : Nat
  /-- `CONSUS_WRITE_TOMBSTONE`, a bit of a write's flags. -/
  consusWriteTombstone : UInt8
  /-- The bytes a `transaction_id`, a `lock_t` and a `lock_op` are packed into. -/
  transactionIdWidth : Nat
  lockTWidth : Nat
  lockOpWidth : Nat

namespace Constants

variable (K : Constants)

/-- A `consus_returncode`: any value of its width, as `static_cast` makes of what it unpacks. -/
abbrev Returncode := Fin (256 ^ K.returncodeWidth)

/-- The enumerator a packed value names, if any: the `case` of `daemon::loop`'s switch it selects, or its `default`. -/
def msgtypeOf (x : Nat) : Option NetworkMsgtype := NetworkMsgtype.all.find? fun t => K.msgtypeValue t == x

theorem msgtypeOf_msgtypeValue (t : NetworkMsgtype) : K.msgtypeOf (K.msgtypeValue t) = some t := by
  cases h : K.msgtypeOf (K.msgtypeValue t) with
  | none => exact absurd (List.find?_eq_none.1 h t (NetworkMsgtype.mem_all t)) (by simp)
  | some u =>
    have hu : K.msgtypeValue u = K.msgtypeValue t := by simpa using List.find?_some h
    rw [K.msgtypeValue_injective hu]

/-- `pk << mt` for a `network_msgtype`. -/
def packMsgtype (t : NetworkMsgtype) : Bytes := packBE K.msgtypeWidth (K.msgtypeValue t)

/-- `up >> mt` for a `network_msgtype`: the enumerator the value names, `none` inside for a value that names none. -/
def unpackMsgtype (up : Bytes) : Option (Option NetworkMsgtype × Bytes) :=
  (unpackUInt K.msgtypeWidth up).map fun r => (K.msgtypeOf r.1, r.2)

/-- `pack_size(mt)` for a `network_msgtype`. -/
def packSizeMsgtype (_t : NetworkMsgtype) : Nat := K.msgtypeWidth

/-- `pack_size(rc)` for a `consus_returncode`. -/
def packSizeReturncode (_rc : K.Returncode) : Nat := K.returncodeWidth

/-- `pk << rc` for a `consus_returncode`. -/
def packReturncode (rc : K.Returncode) : Bytes := packBE K.returncodeWidth rc.val

/-- `up >> rc` for a `consus_returncode`. -/
def unpackReturncode (up : Bytes) : Option (K.Returncode × Bytes) :=
  (unpackUInt K.returncodeWidth up).map fun r =>
    (⟨r.1 % 256 ^ K.returncodeWidth, Nat.mod_lt _ (Nat.pos_pow_of_pos _ (by decide))⟩, r.2)

@[simp] theorem length_packMsgtype (t : NetworkMsgtype) : (K.packMsgtype t).length = K.packSizeMsgtype t :=
  length_packBE _ _

@[simp] theorem length_packReturncode (rc : K.Returncode) :
    (K.packReturncode rc).length = K.packSizeReturncode rc :=
  length_packBE _ _

@[simp] theorem unpackMsgtype_packMsgtype (t : NetworkMsgtype) (rest : Bytes) :
    K.unpackMsgtype (K.packMsgtype t ++ rest) = some (some t, rest) := by
  simp [unpackMsgtype, packMsgtype, Nat.mod_eq_of_lt (K.msgtypeValue_lt t), msgtypeOf_msgtypeValue]

@[simp] theorem unpackReturncode_packReturncode (rc : K.Returncode) (rest : Bytes) :
    K.unpackReturncode (K.packReturncode rc ++ rest) = some (rc, rest) := by
  simp [unpackReturncode, packReturncode, Nat.mod_eq_of_lt rc.isLt]

end Constants

/-! ## Identifiers -/

/-- A `comm_id`: a server of the cluster. -/
structure CommId where
  val : UInt64
  deriving DecidableEq, Repr

/-- A `partition_id`. -/
structure PartitionId where
  val : UInt64
  deriving DecidableEq, Repr

/-- A `version_id`: the version of a configuration. -/
structure VersionId where
  val : UInt64
  deriving DecidableEq, Repr

/-- A `data_center_id`. -/
structure DataCenterId where
  val : UInt64
  deriving DecidableEq, Repr

/-- `pk << id` for a `comm_id`. -/
def packCommId (c : CommId) : Bytes := packU64 c.val

/-- `up >> id` for a `comm_id`. -/
def unpackCommId (up : Bytes) : Option (CommId × Bytes) := (unpackU64 up).map fun r => (⟨r.1⟩, r.2)

/-- `pack_size(id)` for a `comm_id`. -/
def packSizeCommId (_c : CommId) : Nat := 8

/-- `pk << p` for a `partition_id`. -/
def packPartitionId (p : PartitionId) : Bytes := packU64 p.val

/-- `up >> p` for a `partition_id`. -/
def unpackPartitionId (up : Bytes) : Option (PartitionId × Bytes) := (unpackU64 up).map fun r => (⟨r.1⟩, r.2)

/-- `pk << v` for a `version_id`. -/
def packVersionId (v : VersionId) : Bytes := packU64 v.val

/-- `up >> v` for a `version_id`. -/
def unpackVersionId (up : Bytes) : Option (VersionId × Bytes) := (unpackU64 up).map fun r => (⟨r.1⟩, r.2)

@[simp] theorem length_packCommId (c : CommId) : (packCommId c).length = packSizeCommId c := length_packU64 _

@[simp] theorem length_packPartitionId (p : PartitionId) : (packPartitionId p).length = 8 := length_packU64 _

@[simp] theorem length_packVersionId (v : VersionId) : (packVersionId v).length = 8 := length_packU64 _

@[simp] theorem unpackCommId_packCommId (c : CommId) (rest : Bytes) :
    unpackCommId (packCommId c ++ rest) = some (c, rest) := by
  simp [unpackCommId, packCommId]

@[simp] theorem unpackPartitionId_packPartitionId (p : PartitionId) (rest : Bytes) :
    unpackPartitionId (packPartitionId p ++ rest) = some (p, rest) := by
  simp [unpackPartitionId, packPartitionId]

@[simp] theorem unpackVersionId_packVersionId (v : VersionId) (rest : Bytes) :
    unpackVersionId (packVersionId v ++ rest) = some (v, rest) := by
  simp [unpackVersionId, packVersionId]

end ConsusKvs

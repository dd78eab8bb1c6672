import ConsusKvs.Types

/-!
# The key-value-store daemon

`src/kvs/daemon.cc`: the daemon's state, the handler of every message type it processes, the dispatch of
`daemon::loop`, and the coordinator's `new_config` callback.

The configuration and the data layer are not part of the source. They enter as the methods the daemon calls on them
(`ConfigOps`, `DataLayer`), over any representation. The replicators and the migrators are not part of the source
either; a handler's calls into them are recorded as `Effect`s, with the messages it sends, and the daemon keeps the keys
of its three maps. A handler returns the daemon after it and what it did, in order.

Each map is an `e::state_hash_table`: a handler that creates or gets a state holds a `state_reference` to it, and the
table reclaims the state when that reference is released and the state reports itself finished. Whether it does is the
replicator's or the migrator's business, so it is an argument (`finished`) of every handler that holds a reference.

`generate_id` reads `/dev/urandom`; `process_rep_rd` and `process_rep_wr` draw from it until `create_state` accepts a
key. The draws of one message are an argument (`draws`): the loop ends at the first draw that is not a key already, and
while none is, it has done nothing yet.
-/

namespace ConsusKvs

/-- The methods of `configuration` the daemon calls, over a representation `C`. -/
structure ConfigOps (C : Type) where
  /-- `up >> *c`: the configuration and the bytes after it, `none` on an unpacking error. -/
  unpack : Bytes → Option (C × Bytes)
  version : C → VersionId
  getDataCenter : C → CommId → DataCenterId
  /-- `c->map(dc, index, &owner1, &owner2)`. -/
  map : C → DataCenterId → Nat → CommId × CommId
  /-- `c->hash(dc, index, replicas, &num_replicas)`: the replicas, `none` when it returns false. -/
  hash : C → DataCenterId → Nat → Option (List CommId)
  migratablePartitions : C → CommId → List PartitionId

/-- The data layer the raw handlers call, over a representation `D` of its contents: `get(table, key, timestamp)` gives
a return code, the timestamp of the version it found and its value; `put` and `del` give a return code and the contents
after them. -/
structure DataLayer (K : Constants) (D : Type) where
  get : D → Bytes → Bytes → UInt64 → K.Returncode × UInt64 × Bytes
  put : D → Bytes → Bytes → UInt64 → Bytes → K.Returncode × D
  del : D → Bytes → Bytes → UInt64 → K.Returncode × D

/-- `m_us`: the daemon's own identity and its data center. -/
structure Us where
  id : CommId
  dc : DataCenterId
  deriving DecidableEq, Repr

/-- The keys of an `e::state_hash_table`. The table holds at most one state under a key. -/
structure KeySet (α : Type) where
  keys : List α
  nodup : keys.Nodup
  deriving DecidableEq

namespace KeySet

variable {α : Type}

/-- The table with no state. -/
def empty : KeySet α := ⟨[], List.nodup_nil⟩

variable [DecidableEq α]

/-- `get_or_create_state(x, ...)`, and `create_state(x, ...)` when it succeeds: a state under `x`, the one there if
there is one. -/
def insert (s : KeySet α) (x : α) : KeySet α :=
  if h : x ∈ s.keys then s else ⟨x :: s.keys, List.nodup_cons.2 ⟨h, s.nodup⟩⟩

/-- The release of a `state_reference` to the state under `x`: the table reclaims the state if it is finished. -/
def release (s : KeySet α) (x : α) (finished : Bool) : KeySet α :=
  if finished then ⟨s.keys.erase x, s.nodup.erase x⟩ else s

/-- A release only takes keys out. -/
theorem mem_of_mem_release {s : KeySet α} {x y : α} {f : Bool} (h : y ∈ (s.release x f).keys) : y ∈ s.keys := by
  cases f
  · exact h
  · exact List.mem_of_mem_erase h

end KeySet

/-- The daemon, once `daemon::run` has a configuration (`assert(get_config())` comes before the first thread starts).
`replRd`, `replWr` and `migrations` are the keys of `m_repl_rd`, `m_repl_wr` and `m_migrations`; `haveNewConfig` is the
migration thread's `m_have_new_config`. -/
structure Daemon (C D : Type) where
  us : Us
  config : C
  data : D
  replRd : KeySet UInt64
  replWr : KeySet UInt64
  migrations : KeySet PartitionId
  haveNewConfig : Bool
  deriving DecidableEq

/-- What a handler does besides changing the daemon: a message sent, or a call into a replicator or a migrator. A
replicator's `init` is followed at once by `externally_work_state_machine`; the buffer it keeps as backing is the
request's. -/
inductive Effect (K : Constants) where
  | send (id : CommId) (msg : Buffer)
  | readReplicatorInit (x : UInt64) (id : CommId) (nonce : UInt64) (table key : Bytes)
  | writeReplicatorInit (x : UInt64) (id : CommId) (nonce : UInt64) (flags : UInt8) (table key : Bytes)
      (timestamp : UInt64) (value : Bytes)
  | readReplicatorResponse (x : UInt64) (id : CommId) (rc : K.Returncode) (timestamp : UInt64) (value : Bytes)
      (owner : CommId)
  | writeReplicatorResponse (x : UInt64) (id : CommId) (rc : K.Returncode) (owner1 owner2 : CommId)
  | migratorAck (key : PartitionId) (version : VersionId)
  deriving DecidableEq

variable {C D : Type} (K : Constants) (ops : ConfigOps C) (dl : DataLayer K D)

/-! ## Unpacking each message -/

/-- `up >> nonce >> table >> key >> timestamp`: a `KVS_REP_RD` or a `KVS_RAW_RD`. -/
def unpackRd (up : Bytes) : Option ((UInt64 × Bytes × Bytes × UInt64) × Bytes) := do
  let (nonce, up) ← unpackU64 up
  let (table, up) ← unpackSlice up
  let (key, up) ← unpackSlice up
  let (timestamp, up) ← unpackU64 up
  pure ((nonce, table, key, timestamp), up)

/-- `up >> nonce >> flags >> table >> key >> timestamp >> value`: a `KVS_REP_WR` or a `KVS_RAW_WR`. -/
def unpackWr (up : Bytes) : Option ((UInt64 × UInt8 × Bytes × Bytes × UInt64 × Bytes) × Bytes) := do
  let (nonce, up) ← unpackU64 up
  let (flags, up) ← unpackU8 up
  let (table, up) ← unpackSlice up
  let (key, up) ← unpackSlice up
  let (timestamp, up) ← unpackU64 up
  let (value, up) ← unpackSlice up
  pure ((nonce, flags, table, key, timestamp, value), up)

/-- `up >> nonce >> rc >> timestamp >> value >> owner`: a `KVS_RAW_RD_RESP`. -/
def unpackRawRdResp (up : Bytes) : Option ((UInt64 × K.Returncode × UInt64 × Bytes × CommId) × Bytes) := do
  let (nonce, up) ← unpackU64 up
  let (rc, up) ← K.unpackReturncode up
  let (timestamp, up) ← unpackU64 up
  let (value, up) ← unpackSlice up
  let (owner, up) ← unpackCommId up
  pure ((nonce, rc, timestamp, value, owner), up)

/-- `up >> nonce >> rc >> owner1 >> owner2`: a `KVS_RAW_WR_RESP`. -/
def unpackRawWrResp (up : Bytes) : Option ((UInt64 × K.Returncode × CommId × CommId) × Bytes) := do
  let (nonce, up) ← unpackU64 up
  let (rc, up) ← K.unpackReturncode up
  let (owner1, up) ← unpackCommId up
  let (owner2, up) ← unpackCommId up
  pure ((nonce, rc, owner1, owner2), up)

/-- `up >> nonce >> table >> key >> txid >> type >> op`: a `KVS_LOCK_OP`. -/
def unpackLockOp (up : Bytes) : Option ((UInt64 × Bytes × Bytes × Bytes × Bytes × Bytes) × Bytes) := do
  let (nonce, up) ← unpackU64 up
  let (table, up) ← unpackSlice up
  let (key, up) ← unpackSlice up
  let (txid, up) ← unpackBytes K.transactionIdWidth up
  let (type, up) ← unpackBytes K.lockTWidth up
  let (op, up) ← unpackBytes K.lockOpWidth up
  pure ((nonce, table, key, txid, type, op), up)

/-- `up >> key >> version`: a `KVS_MIGRATE_SYN` or a `KVS_MIGRATE_ACK`. -/
def unpackMigrate (up : Bytes) : Option ((PartitionId × VersionId) × Bytes) := do
  let (key, up) ← unpackPartitionId up
  let (version, up) ← unpackVersionId up
  pure ((key, version), up)

/-! ## Partitions -/

/-- `daemon::choose_index`: the first two bytes of the key, zero-padded, read as a big-endian `uint16_t`. The table is
not read. -/
def chooseIndex (_table key : Bytes) : Nat := unpackBE (key.take 2 ++ List.replicate (2 - key.length) 0)

/-- `daemon::choose_replicas`: no replica for the index `CONSUS_KVS_PARTITIONS`; otherwise the replicas the
configuration hashes the index to in this daemon's data center, at most the desired five. Gives the replicas and the
desired replication. -/
def chooseReplicas (s : Daemon C D) (table key : Bytes) : List CommId × Nat :=
  let desiredReplication := 5
  let index := chooseIndex table key
  if index = K.consusKvsPartitions then ([], desiredReplication)
  else
    let dc := ops.getDataCenter s.config s.us.id
    (((ops.hash s.config dc index).getD []).take desiredReplication, desiredReplication)

/-! ## Handlers -/

/-- The first draw of `generate_id` that `create_state` accepts: the first that is not a key of the map already. -/
def firstFresh (keys : List UInt64) : List UInt64 → Option UInt64
  | [] => none
  | x :: xs => if x ∈ keys then firstFresh keys xs else some x

/-- The loop of `daemon::process_rep_rd`: a read replicator under the first fresh draw, initialised with the caller, the
nonce, the table and the key, and worked; `rsr` is released at the `break`. -/
def createReadReplicator (s : Daemon C D) (id : CommId) (nonce : UInt64) (table key : Bytes) (draws : List UInt64)
    (finished : Bool) : Daemon C D × List (Effect K) :=
  match firstFresh s.replRd.keys draws with
  | none => (s, [])
  | some x =>
    ({ s with replRd := (s.replRd.insert x).release x finished }, [.readReplicatorInit x id nonce table key])

/-- The loop of `daemon::process_rep_wr`: a write replicator under the first fresh draw, initialised with every field of
the request, and worked; `wsr` is released at the `break`. -/
def createWriteReplicator (s : Daemon C D) (id : CommId) (nonce : UInt64) (flags : UInt8) (table key : Bytes)
    (timestamp : UInt64) (value : Bytes) (draws : List UInt64) (finished : Bool) : Daemon C D × List (Effect K) :=
  match firstFresh s.replWr.keys draws with
  | none => (s, [])
  | some x =>
    ({ s with replWr := (s.replWr.insert x).release x finished },
      [.writeReplicatorInit x id nonce flags table key timestamp value])

/-- `daemon::process_rep_rd`. The timestamp is unpacked and not used. -/
def processRepRd (s : Daemon C D) (id : CommId) (up : Bytes) (draws : List UInt64) (finished : Bool) :
    Daemon C D × List (Effect K) :=
  match unpackRd up with
  | none => (s, [])
  | some ((nonce, table, key, _timestamp), _) => createReadReplicator K s id nonce table key draws finished

/-- `daemon::process_rep_wr`. -/
def processRepWr (s : Daemon C D) (id : CommId) (up : Bytes) (draws : List UInt64) (finished : Bool) :
    Daemon C D × List (Effect K) :=
  match unpackWr up with
  | none => (s, [])
  | some ((nonce, flags, table, key, timestamp, value), _) =>
    createWriteReplicator K s id nonce flags table key timestamp value draws finished

/-- The `KVS_RAW_RD_RESP` `process_raw_rd` packs: a buffer of the size it sums, the fields after the header. -/
def rawRdResp (nonce : UInt64) (rc : K.Returncode) (timestamp : UInt64) (value : Bytes) (owner1 : CommId) : Buffer :=
  let sz := K.busybeeHeaderSize + K.packSizeMsgtype .kvsRawRdResp + 8 + K.packSizeReturncode rc + 8 +
    packSizeSlice value + packSizeCommId owner1
  (Buffer.create sz).packAt K.busybeeHeaderSize
    (K.packMsgtype .kvsRawRdResp ++ packU64 nonce ++ K.packReturncode rc ++ packU64 timestamp ++ packSlice value ++
      packCommId owner1)

/-- The `KVS_RAW_WR_RESP` `process_raw_wr` packs. -/
def rawWrResp (nonce : UInt64) (rc : K.Returncode) (owner1 owner2 : CommId) : Buffer :=
  let sz := K.busybeeHeaderSize + K.packSizeMsgtype .kvsRawWrResp + 8 + K.packSizeReturncode rc +
    packSizeCommId owner1 + packSizeCommId owner2
  (Buffer.create sz).packAt K.busybeeHeaderSize
    (K.packMsgtype .kvsRawWrResp ++ packU64 nonce ++ K.packReturncode rc ++ packCommId owner1 ++ packCommId owner2)

/-- `daemon::process_raw_rd`: a key whose index is `CONSUS_MAX_REPLICATION_FACTOR` is dropped; otherwise the data
layer's answer (its return code, the timestamp it found and the value), with the first owner the configuration maps the
index to, goes back to the sender. -/
def processRawRd (s : Daemon C D) (id : CommId) (up : Bytes) : Daemon C D × List (Effect K) :=
  match unpackRd up with
  | none => (s, [])
  | some ((nonce, table, key, timestamp), _) =>
    let index := chooseIndex table key
    if index = K.consusMaxReplicationFactor then (s, [])
    else
      let owners := ops.map s.config s.us.dc index
      let got := dl.get s.data table key timestamp
      (s, [.send id (rawRdResp K nonce got.1 got.2.1 got.2.2 owners.1)])

/-- `daemon::process_raw_wr`: as `process_raw_rd`, with a `del` for a tombstone and a `put` otherwise, and both owners
in the answer. -/
def processRawWr (s : Daemon C D) (id : CommId) (up : Bytes) : Daemon C D × List (Effect K) :=
  match unpackWr up with
  | none => (s, [])
  | some ((nonce, flags, table, key, timestamp, value), _) =>
    let index := chooseIndex table key
    if index = K.consusMaxReplicationFactor then (s, [])
    else
      let owners := ops.map s.config s.us.dc index
      let done := if K.consusWriteTombstone &&& flags ≠ 0 then dl.del s.data table key timestamp
        else dl.put s.data table key timestamp value
      ({ s with data := done.2 }, [.send id (rawWrResp K nonce done.1 owners.1 owners.2)])

/-- `daemon::process_raw_rd_resp`: the answer goes to the read replicator the nonce names, if there is one, and `rsr`
is released on return. -/
def processRawRdResp (s : Daemon C D) (id : CommId) (up : Bytes) (finished : Bool) : Daemon C D × List (Effect K) :=
  match unpackRawRdResp K up with
  | none => (s, [])
  | some ((nonce, rc, timestamp, value, owner), _) =>
    if nonce ∈ s.replRd.keys then
      ({ s with replRd := s.replRd.release nonce finished },
        [.readReplicatorResponse nonce id rc timestamp value owner])
    else (s, [])

/-- `daemon::process_raw_wr_resp`: the answer goes to the write replicator the nonce names, if there is one, and `wsr`
is released on return. -/
def processRawWrResp (s : Daemon C D) (id : CommId) (up : Bytes) (finished : Bool) : Daemon C D × List (Effect K) :=
  match unpackRawWrResp K up with
  | none => (s, [])
  | some ((nonce, rc, owner1, owner2), _) =>
    if nonce ∈ s.replWr.keys then
      ({ s with replWr := s.replWr.release nonce finished }, [.writeReplicatorResponse nonce id rc owner1 owner2])
    else (s, [])

/-- `daemon::process_lock_op`, not yet implemented: every lock operation succeeds, answered over the request. -/
def processLockOp (s : Daemon C D) (id : CommId) (msg : Buffer) (up : Bytes) : Daemon C D × List (Effect K) :=
  match unpackLockOp K up with
  | none => (s, [])
  | some ((nonce, _), _) =>
    (s, [.send id (msg.packAt K.busybeeHeaderSize
      (K.packMsgtype .kvsLockOpResp ++ packU64 nonce ++ K.packReturncode K.consusSuccess))])

/-- The `KVS_MIGRATE_ACK` `process_migrate_syn` packs over the request `msg`. -/
def migrateAck (msg : Buffer) (key : PartitionId) (version : VersionId) : Buffer :=
  msg.packAt K.busybeeHeaderSize (K.packMsgtype .kvsMigrateAck ++ packPartitionId key ++ packVersionId version)

/-- `daemon::process_migrate_syn`: a configuration at least as new as the one asked for acknowledges with its own
version. -/
def processMigrateSyn (s : Daemon C D) (id : CommId) (msg : Buffer) (up : Bytes) : Daemon C D × List (Effect K) :=
  match unpackMigrate up with
  | none => (s, [])
  | some ((key, version), _) =>
    if version.val ≤ (ops.version s.config).val then (s, [.send id (migrateAck K msg key (ops.version s.config))])
    else (s, [])

/-- `daemon::process_migrate_ack`: the acknowledgement goes to the migrator of the partition, if there is one, and `msr`
is released on return. -/
def processMigrateAck (s : Daemon C D) (up : Bytes) (finished : Bool) : Daemon C D × List (Effect K) :=
  match unpackMigrate up with
  | none => (s, [])
  | some ((key, version), _) =>
    if key ∈ s.migrations.keys then
      ({ s with migrations := s.migrations.release key finished }, [.migratorAck key version])
    else (s, [])

/-! ## The network loop -/

/-- What `daemon::loop` makes of a received buffer: the message type after the transport's header (`none` inside for a
value no enumerator has) and the unpacker after it; `none` for a malformed header. -/
def dispatch (msg : Buffer) : Option (Option NetworkMsgtype × Bytes) :=
  (msg.unpackFrom K.busybeeHeaderSize).bind K.unpackMsgtype

/-- One turn of `daemon::loop` on a buffer received from `id`: the handler the message type selects, with whether the
state it holds a reference to is finished when the reference is released. A malformed header, `CONSUS_NOP` and every
type a key-value store does not process leave the daemon as it was. -/
def loop (s : Daemon C D) (id : CommId) (msg : Buffer) (draws : List UInt64) (finished : Bool) :
    Daemon C D × List (Effect K) :=
  match dispatch K msg with
  | some (some .kvsRepRd, up) => processRepRd K s id up draws finished
  | some (some .kvsRepWr, up) => processRepWr K s id up draws finished
  | some (some .kvsRawRd, up) => processRawRd K ops dl s id up
  | some (some .kvsRawRdResp, up) => processRawRdResp K s id up finished
  | some (some .kvsRawWr, up) => processRawWr K ops dl s id up
  | some (some .kvsRawWrResp, up) => processRawWrResp K s id up finished
  | some (some .kvsLockOp, up) => processLockOp K s id msg up
  | some (some .kvsMigrateSyn, up) => processMigrateSyn K ops s id msg up
  | some (some .kvsMigrateAck, up) => processMigrateAck K s up finished
  | _ => (s, [])

/-! ## A new configuration -/

/-- The first half of `new_config` once the blob decodes: the data center read from the new configuration, and the
configuration published as `m_config`. -/
def Daemon.publish (s : Daemon C D) (c : C) : Daemon C D :=
  { s with us := { s.us with dc := ops.getDataCenter c s.us.id }, config := c }

/-- `migration_bgthread::new_config`: `m_have_new_config` set under the thread's mutex. -/
def Daemon.signal (s : Daemon C D) : Daemon C D := { s with haveNewConfig := true }

/-- `coordinator_callback::new_config`: a blob that decodes with no error and nothing left over is installed and `true`
returned; any other blob is refused with `false`. -/
def newConfig (s : Daemon C D) (data : Bytes) : Daemon C D × Bool :=
  match ops.unpack data with
  | some (c, []) => ((s.publish ops c).signal, true)
  | _ => (s, false)

end ConsusKvs

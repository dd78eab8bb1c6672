import ConsusKvs.Daemon
import ConsusKvs.Instances

/-!
# What each handler does

The payload of each request, as its handler unpacks it, and one lemma per handler saying what it does once the payload
has unpacked. `loop_cases` says what one message can do to the daemon, and `loop_frame` what it cannot: change the
daemon's identity, its configuration or the migration thread's flag, or add a migrator. A message changes the data
layer, the replicator maps, or takes a finished migrator out of its map.
-/

namespace ConsusKvs

variable {C D : Type} (K : Constants) (ops : ConfigOps C) (dl : DataLayer K D)

/-! ## Payloads -/

/-- The payload of a `KVS_REP_RD` or a `KVS_RAW_RD`, as `unpackRd` reads it. -/
def rdPayload (nonce : UInt64) (table key : Bytes) (timestamp : UInt64) : Bytes :=
  packU64 nonce ++ packSlice table ++ packSlice key ++ packU64 timestamp

/-- The payload of a `KVS_REP_WR` or a `KVS_RAW_WR`, as `unpackWr` reads it. -/
def wrPayload (nonce : UInt64) (flags : UInt8) (table key : Bytes) (timestamp : UInt64) (value : Bytes) : Bytes :=
  packU64 nonce ++ packU8 flags ++ packSlice table ++ packSlice key ++ packU64 timestamp ++ packSlice value

/-- The payload of a `KVS_LOCK_OP`, as `unpackLockOp` reads it. -/
def lockOpPayload (nonce : UInt64) (table key txid type op : Bytes) : Bytes :=
  packU64 nonce ++ packSlice table ++ packSlice key ++ txid ++ type ++ op

/-- The payload of a `KVS_MIGRATE_SYN` or a `KVS_MIGRATE_ACK`, as `unpackMigrate` reads it. -/
def migratePayload (key : PartitionId) (version : VersionId) : Bytes := packPartitionId key ++ packVersionId version

@[simp] theorem unpackRd_rdPayload (nonce : UInt64) (table key : Bytes) (timestamp : UInt64) (rest : Bytes)
    (ht : table.length < 2 ^ 32) (hk : key.length < 2 ^ 32) :
    unpackRd (rdPayload nonce table key timestamp ++ rest) = some ((nonce, table, key, timestamp), rest) := by
  simp only [unpackRd, rdPayload, List.append_assoc, unpackU64_packU64, unpackSlice_packSlice _ _ ht,
    unpackSlice_packSlice _ _ hk, some_bind_eq, Option.pure_def]

@[simp] theorem unpackWr_wrPayload (nonce : UInt64) (flags : UInt8) (table key : Bytes) (timestamp : UInt64)
    (value rest : Bytes) (ht : table.length < 2 ^ 32) (hk : key.length < 2 ^ 32) (hv : value.length < 2 ^ 32) :
    unpackWr (wrPayload nonce flags table key timestamp value ++ rest) =
      some ((nonce, flags, table, key, timestamp, value), rest) := by
  simp only [unpackWr, wrPayload, List.append_assoc, unpackU64_packU64, unpackU8_packU8, unpackSlice_packSlice _ _ ht,
    unpackSlice_packSlice _ _ hk, unpackSlice_packSlice _ _ hv, some_bind_eq, Option.pure_def]

@[simp] theorem unpackLockOp_lockOpPayload (nonce : UInt64) (table key txid type op rest : Bytes)
    (ht : table.length < 2 ^ 32) (hk : key.length < 2 ^ 32) (htx : txid.length = K.transactionIdWidth)
    (hty : type.length = K.lockTWidth) (hop : op.length = K.lockOpWidth) :
    unpackLockOp K (lockOpPayload nonce table key txid type op ++ rest) =
      some ((nonce, table, key, txid, type, op), rest) := by
  simp only [unpackLockOp, lockOpPayload, List.append_assoc, unpackU64_packU64, unpackSlice_packSlice _ _ ht,
    unpackSlice_packSlice _ _ hk, unpackBytes_append _ _ htx, unpackBytes_append _ _ hty, unpackBytes_append _ _ hop,
    some_bind_eq, Option.pure_def]

@[simp] theorem unpackMigrate_migratePayload (key : PartitionId) (version : VersionId) (rest : Bytes) :
    unpackMigrate (migratePayload key version ++ rest) = some ((key, version), rest) := by
  simp [unpackMigrate, migratePayload]

/-- A fresh buffer packed after its header dispatches on the type packed first. -/
theorem dispatch_create_packAt (sz : Nat) (t : NetworkMsgtype) (payload : Bytes) :
    dispatch K ((Buffer.create sz).packAt K.busybeeHeaderSize (K.packMsgtype t ++ payload)) =
      some (some t, payload) := by
  simp [dispatch, Buffer.unpackFrom_packAt, Buffer.create]

/-! ## One lemma per handler -/

/-- `process_raw_rd` on a payload that unpacks: nothing for the index `CONSUS_MAX_REPLICATION_FACTOR`; otherwise the
daemon as it was and one `KVS_RAW_RD_RESP` to the sender. -/
theorem processRawRd_eq {s : Daemon C D} {id : CommId} {up rest : Bytes} {nonce timestamp : UInt64} {table key : Bytes}
    (h : unpackRd up = some ((nonce, table, key, timestamp), rest)) :
    processRawRd K ops dl s id up =
      if chooseIndex table key = K.consusMaxReplicationFactor then (s, [])
      else
        let got := dl.get s.data table key timestamp
        let owners := ops.map s.config s.us.dc (chooseIndex table key)
        (s, [.send id (rawRdResp K nonce got.1 got.2.1 got.2.2 owners.1)]) := by
  simp only [processRawRd, h]

/-- `process_raw_wr` on a payload that unpacks: nothing for the index `CONSUS_MAX_REPLICATION_FACTOR`; otherwise the
data layer's `del` or `put` and one `KVS_RAW_WR_RESP` to the sender. -/
theorem processRawWr_eq {s : Daemon C D} {id : CommId} {up rest : Bytes} {nonce timestamp : UInt64} {flags : UInt8}
    {table key value : Bytes} (h : unpackWr up = some ((nonce, flags, table, key, timestamp, value), rest)) :
    processRawWr K ops dl s id up =
      if chooseIndex table key = K.consusMaxReplicationFactor then (s, [])
      else
        let owners := ops.map s.config s.us.dc (chooseIndex table key)
        let done := if K.consusWriteTombstone &&& flags ≠ 0 then dl.del s.data table key timestamp
          else dl.put s.data table key timestamp value
        ({ s with data := done.2 }, [.send id (rawWrResp K nonce done.1 owners.1 owners.2)]) := by
  simp only [processRawWr, h]

theorem processRepRd_eq {s : Daemon C D} {id : CommId} {up rest : Bytes} {nonce timestamp : UInt64}
    {table key : Bytes} (draws : List UInt64) (finished : Bool)
    (h : unpackRd up = some ((nonce, table, key, timestamp), rest)) :
    processRepRd K s id up draws finished = createReadReplicator K s id nonce table key draws finished := by
  simp only [processRepRd, h]

/-- `process_migrate_syn` on a payload that unpacks: an acknowledgement with the installed version exactly when that
version is at least the one asked for. -/
theorem processMigrateSyn_eq {s : Daemon C D} {id : CommId} {msg : Buffer} {up rest : Bytes} {key : PartitionId}
    {version : VersionId} (h : unpackMigrate up = some ((key, version), rest)) :
    processMigrateSyn K ops s id msg up =
      if version.val ≤ (ops.version s.config).val then (s, [.send id (migrateAck K msg key (ops.version s.config))])
      else (s, []) := by
  simp only [processMigrateSyn, h]

/-! ## The frame of a message -/

/-- `s'` differs from `s` at most in its replicator maps, its data layer, and migrators its map has reclaimed. -/
def Daemon.Frame (s s' : Daemon C D) : Prop :=
  s'.us = s.us ∧ s'.config = s.config ∧ (∀ p ∈ s'.migrations.keys, p ∈ s.migrations.keys) ∧
    s'.haveNewConfig = s.haveNewConfig

/-- A replicated request creates at most one replicator, and releases it at once if it is finished. -/
theorem createReadReplicator_fst (s : Daemon C D) (id : CommId) (nonce : UInt64) (table key : Bytes)
    (draws : List UInt64) (finished : Bool) :
    (createReadReplicator K s id nonce table key draws finished).1 = s ∨ ∃ x,
      (createReadReplicator K s id nonce table key draws finished).1 =
        { s with replRd := (s.replRd.insert x).release x finished } := by
  unfold createReadReplicator
  split
  exacts [.inl rfl, .inr ⟨_, rfl⟩]

theorem createWriteReplicator_fst (s : Daemon C D) (id : CommId) (nonce : UInt64) (flags : UInt8)
    (table key : Bytes) (timestamp : UInt64) (value : Bytes) (draws : List UInt64) (finished : Bool) :
    (createWriteReplicator K s id nonce flags table key timestamp value draws finished).1 = s ∨ ∃ x,
      (createWriteReplicator K s id nonce flags table key timestamp value draws finished).1 =
        { s with replWr := (s.replWr.insert x).release x finished } := by
  unfold createWriteReplicator
  split
  exacts [.inl rfl, .inr ⟨_, rfl⟩]

theorem processRawWr_fst (s : Daemon C D) (id : CommId) (up : Bytes) :
    (processRawWr K ops dl s id up).1 = s ∨ ∃ d, (processRawWr K ops dl s id up).1 = { s with data := d } := by
  unfold processRawWr
  split
  · exact .inl rfl
  · dsimp only
    split_ifs
    exacts [.inl rfl, .inr ⟨_, rfl⟩, .inr ⟨_, rfl⟩]

/-- A response releases the replicator it names, if there is one. -/
theorem processRawRdResp_fst (s : Daemon C D) (id : CommId) (up : Bytes) (finished : Bool) :
    (processRawRdResp K s id up finished).1 = s ∨
      ∃ x, (processRawRdResp K s id up finished).1 = { s with replRd := s.replRd.release x finished } := by
  unfold processRawRdResp
  split
  · exact .inl rfl
  · split_ifs
    exacts [.inr ⟨_, rfl⟩, .inl rfl]

theorem processRawWrResp_fst (s : Daemon C D) (id : CommId) (up : Bytes) (finished : Bool) :
    (processRawWrResp K s id up finished).1 = s ∨
      ∃ x, (processRawWrResp K s id up finished).1 = { s with replWr := s.replWr.release x finished } := by
  unfold processRawWrResp
  split
  · exact .inl rfl
  · split_ifs
    exacts [.inr ⟨_, rfl⟩, .inl rfl]

/-- An acknowledgement releases the migrator it names, if there is one. -/
theorem processMigrateAck_fst (s : Daemon C D) (up : Bytes) (finished : Bool) :
    (processMigrateAck K s up finished).1 = s ∨
      ∃ p, (processMigrateAck K s up finished).1 = { s with migrations := s.migrations.release p finished } := by
  unfold processMigrateAck
  split
  · exact .inl rfl
  · split_ifs
    exacts [.inr ⟨_, rfl⟩, .inl rfl]

/-- The handlers that change nothing of the daemon. -/
theorem processRawRd_fst (s : Daemon C D) (id : CommId) (up : Bytes) : (processRawRd K ops dl s id up).1 = s := by
  unfold processRawRd
  split
  · rfl
  · dsimp only
    split_ifs <;> rfl

theorem processLockOp_fst (s : Daemon C D) (id : CommId) (msg : Buffer) (up : Bytes) :
    (processLockOp K s id msg up).1 = s := by
  unfold processLockOp
  split <;> rfl

theorem processMigrateSyn_fst (s : Daemon C D) (id : CommId) (msg : Buffer) (up : Bytes) :
    (processMigrateSyn K ops s id msg up).1 = s := by
  unfold processMigrateSyn
  split
  · rfl
  · split_ifs <;> rfl

/-- What one message can do to the daemon: nothing; a new data layer, only under a `KVS_RAW_WR`; new keys of one
replicator map; or the release of a migrator, reclaimed if it is finished. -/
theorem loop_cases (s : Daemon C D) (id : CommId) (msg : Buffer) (draws : List UInt64) (finished : Bool) :
    (loop K ops dl s id msg draws finished).1 = s ∨
      (∃ up d, dispatch K msg = some (some .kvsRawWr, up) ∧ (loop K ops dl s id msg draws finished).1 =
        { s with data := d }) ∨
      (∃ r, (loop K ops dl s id msg draws finished).1 = { s with replRd := r }) ∨
      (∃ r, (loop K ops dl s id msg draws finished).1 = { s with replWr := r }) ∨
      ∃ p, (loop K ops dl s id msg draws finished).1 = { s with migrations := s.migrations.release p finished } := by
  unfold loop
  split
  · unfold processRepRd
    split
    · exact .inl rfl
    · exact (createReadReplicator_fst K s id _ _ _ draws finished).imp_right fun ⟨_, h⟩ => .inr (.inl ⟨_, h⟩)
  · unfold processRepWr
    split
    · exact .inl rfl
    · exact (createWriteReplicator_fst K s id _ _ _ _ _ _ draws finished).imp_right
        fun ⟨_, h⟩ => .inr (.inr (.inl ⟨_, h⟩))
  · exact .inl (processRawRd_fst K ops dl s id _)
  · exact (processRawRdResp_fst K s id _ finished).imp_right fun ⟨_, h⟩ => .inr (.inl ⟨_, h⟩)
  · exact (processRawWr_fst K ops dl s id _).imp_right fun ⟨_, h⟩ => .inl ⟨_, _, ‹_›, h⟩
  · exact (processRawWrResp_fst K s id _ finished).imp_right fun ⟨_, h⟩ => .inr (.inr (.inl ⟨_, h⟩))
  · exact .inl (processLockOp_fst K s id msg _)
  · exact .inl (processMigrateSyn_fst K ops s id msg _)
  · exact (processMigrateAck_fst K s _ finished).imp_right fun h => .inr (.inr (.inr h))
  · exact .inl rfl

/-- No message changes the daemon's identity, its configuration or the migration thread's flag, or adds a migrator. -/
theorem loop_frame (s : Daemon C D) (id : CommId) (msg : Buffer) (draws : List UInt64) (finished : Bool) :
    s.Frame (loop K ops dl s id msg draws finished).1 := by
  rcases loop_cases K ops dl s id msg draws finished with h | ⟨_, _, _, h⟩ | ⟨_, h⟩ | ⟨_, h⟩ | ⟨_, h⟩ <;> rw [h]
  -- nothing, the data layer or a replicator map: the migrator map is as it was
  iterate 4 exact ⟨rfl, rfl, fun _ h => h, rfl⟩
  -- a release takes at most one migrator out
  exact ⟨rfl, rfl, fun _ h => KeySet.mem_of_mem_release h, rfl⟩

end ConsusKvs

import ConsusKvs.Handlers
import ConsusKvs.Instances

/-!
# The daemon's responses read back

Three responses are packed by hand, each with a size summed by hand: `KVS_RAW_RD_RESP` in `process_raw_rd`,
`KVS_RAW_WR_RESP` in `process_raw_wr`, and `KVS_MIGRATE_ACK`, packed by `process_migrate_syn` over the request it
answers. For every value of every field, each fills exactly the buffer it is given (`rawRdResp_fits`,
`rawWrResp_fits`, `migrateAck_fits`), and a daemon that receives it dispatches it to the matching handler, which
unpacks exactly the fields that were packed and passes them on to the replicator or migrator named, which it then
releases (`rawRdResp_received`, `rawWrResp_received`, `migrateAck_received`). `response_codecs_agree` gathers the three.
-/

namespace ConsusKvs

variable {C D : Type} (K : Constants) (ops : ConfigOps C) (dl : DataLayer K D)

namespace CodecAux

theorem eq_append_of_unpackBytes {w : Nat} {up a r : Bytes} (h : unpackBytes w up = some (a, r)) :
    a.length = w ∧ up = a ++ r := by
  unfold unpackBytes at h
  split at h
  · cases h
    exact ⟨by simpa, (List.take_append_drop w up).symm⟩
  · cases h

theorem eq_append_of_unpackUInt {w : Nat} {up r : Bytes} {n : Nat} (h : unpackUInt w up = some (n, r)) :
    ∃ a : Bytes, a.length = w ∧ up = a ++ r := by
  obtain ⟨⟨a, r'⟩, ha, he⟩ := Option.map_eq_some'.1 h
  cases he
  exact ⟨a, eq_append_of_unpackBytes ha⟩

theorem eq_append_of_unpackU64 {up r : Bytes} {x : UInt64} (h : unpackU64 up = some (x, r)) :
    ∃ a : Bytes, a.length = 8 ∧ up = a ++ r := by
  obtain ⟨⟨n, r'⟩, ha, he⟩ := Option.map_eq_some'.1 h
  cases he
  exact eq_append_of_unpackUInt ha

/-- A `KVS_MIGRATE_SYN` or `KVS_MIGRATE_ACK` that unpacks took sixteen bytes. -/
theorem eq_append_of_unpackMigrate {up rest : Bytes} {key : PartitionId} {version : VersionId}
    (h : unpackMigrate up = some ((key, version), rest)) : ∃ a : Bytes, a.length = 16 ∧ up = a ++ rest := by
  unfold unpackMigrate unpackPartitionId unpackVersionId at h
  cases h₁ : unpackU64 up with
  | none => simp [h₁] at h
  | some r₁ =>
    cases h₂ : unpackU64 r₁.2 with
    | none => simp [h₁, h₂] at h
    | some r₂ =>
      simp only [h₁, h₂, Option.map_some', some_bind_eq, Option.pure_def,
        Option.some.injEq, Prod.mk.injEq] at h
      obtain ⟨a₁, hl₁, e₁⟩ := eq_append_of_unpackU64 h₁
      obtain ⟨a₂, hl₂, e₂⟩ := eq_append_of_unpackU64 h₂
      exact ⟨a₁ ++ a₂, by simp [hl₁, hl₂], by rw [e₁, e₂, h.2, List.append_assoc]⟩

/-- A buffer whose type unpacks: the header, the type's bytes, and the unpacker after them. -/
theorem eq_append_of_dispatch {msg : Buffer} {t : Option NetworkMsgtype} {up : Bytes}
    (h : dispatch K msg = some (t, up)) :
    ∃ a : Bytes, a.length = K.msgtypeWidth ∧ msg.data.drop K.busybeeHeaderSize = a ++ up ∧
      K.busybeeHeaderSize ≤ msg.data.length := by
  simp only [dispatch, Buffer.unpackFrom, Option.bind_eq_some] at h
  obtain ⟨bs, hb, hm⟩ := h
  split at hb
  · cases hb
    obtain ⟨⟨n, r⟩, hu, he⟩ := Option.map_eq_some'.1 hm
    cases he
    obtain ⟨a, hl, hs⟩ := eq_append_of_unpackUInt hu
    exact ⟨a, hl, hs, by assumption⟩
  · cases hb

/-- A reply packed over a request after its header: the reply's type, its fields, then the request's bytes past
them. -/
theorem dispatch_packAt_reply {msg : Buffer} {t : Option NetworkMsgtype} {up : Bytes}
    (h : dispatch K msg = some (t, up)) (t' : NetworkMsgtype) (payload : Bytes) :
    dispatch K (msg.packAt K.busybeeHeaderSize (K.packMsgtype t' ++ payload)) =
      some (some t', payload ++ up.drop payload.length) := by
  obtain ⟨a, ha, hd, -⟩ := eq_append_of_dispatch K h
  have hrest : msg.data.drop (K.busybeeHeaderSize + (K.packMsgtype t' ++ payload).length) =
      up.drop payload.length := by
    rw [List.length_append, K.length_packMsgtype, Constants.packSizeMsgtype, ← ha, ← List.drop_drop, hd,
      List.drop_append]
  rw [dispatch, Buffer.unpackFrom_packAt, hrest]
  simp only [Option.some_bind, List.append_assoc, K.unpackMsgtype_packMsgtype]

/-- A reply no longer than the request's fields leaves the request's size as it was. -/
theorem length_packAt_reply {msg : Buffer} {t : Option NetworkMsgtype} {up : Bytes}
    (h : dispatch K msg = some (t, up)) (t' : NetworkMsgtype) {payload : Bytes} (hle : payload.length ≤ up.length) :
    (msg.packAt K.busybeeHeaderSize (K.packMsgtype t' ++ payload)).data.length = msg.data.length := by
  obtain ⟨a, ha, hd, hh⟩ := eq_append_of_dispatch K h
  have hlen := congrArg List.length hd
  rw [List.length_drop, List.length_append] at hlen
  apply Buffer.length_packAt_of_le
  rw [List.length_append, K.length_packMsgtype, Constants.packSizeMsgtype]
  omega

theorem unpackRawRdResp_pack (nonce timestamp : UInt64) (rc : K.Returncode) (value : Bytes) (owner1 : CommId)
    (rest : Bytes) (hv : value.length < 2 ^ 32) :
    unpackRawRdResp K (packU64 nonce ++ K.packReturncode rc ++ packU64 timestamp ++ packSlice value ++
      packCommId owner1 ++ rest) = some ((nonce, rc, timestamp, value, owner1), rest) := by
  simp only [unpackRawRdResp, List.append_assoc, unpackU64_packU64, K.unpackReturncode_packReturncode,
    unpackSlice_packSlice _ _ hv, unpackCommId_packCommId, some_bind_eq, Option.pure_def]

theorem unpackRawWrResp_pack (nonce : UInt64) (rc : K.Returncode) (owner1 owner2 : CommId) (rest : Bytes) :
    unpackRawWrResp K (packU64 nonce ++ K.packReturncode rc ++ packCommId owner1 ++ packCommId owner2 ++ rest) =
      some ((nonce, rc, owner1, owner2), rest) := by
  simp only [unpackRawWrResp, List.append_assoc, unpackU64_packU64, K.unpackReturncode_packReturncode,
    unpackCommId_packCommId, some_bind_eq, Option.pure_def]

end CodecAux

open CodecAux

/-! ## `KVS_RAW_RD_RESP` -/

/-- The response `process_raw_rd` packs fills the `sz` bytes it creates: no more, so the packer does not overflow, and
no less. -/
theorem rawRdResp_fits (nonce timestamp : UInt64) (rc : K.Returncode) (value : Bytes) (owner1 : CommId) :
    (rawRdResp K nonce rc timestamp value owner1).data.length =
      (rawRdResp K nonce rc timestamp value owner1).capacity := by
  simp only [rawRdResp, Buffer.create_packAt, List.length_append, List.length_replicate, K.length_packMsgtype,
    length_packU64, K.length_packReturncode, length_packSlice, length_packCommId]
  omega

/-- The response `process_raw_rd` packs is dispatched as a `KVS_RAW_RD_RESP` and unpacks, with no error, to exactly the
fields that were packed. -/
theorem rawRdResp_unpacks (nonce timestamp : UInt64) (rc : K.Returncode) (value : Bytes) (owner1 : CommId)
    (hv : value.length < 2 ^ 32) :
    ∃ up, dispatch K (rawRdResp K nonce rc timestamp value owner1) = some (some .kvsRawRdResp, up) ∧
      unpackRawRdResp K up = some ((nonce, rc, timestamp, value, owner1), []) := by
  have hd := dispatch_create_packAt K
    (K.busybeeHeaderSize + K.packSizeMsgtype .kvsRawRdResp + 8 + K.packSizeReturncode rc + 8 + packSizeSlice value +
      packSizeCommId owner1) .kvsRawRdResp
    (packU64 nonce ++ K.packReturncode rc ++ packU64 timestamp ++ packSlice value ++ packCommId owner1)
  have hu := unpackRawRdResp_pack K nonce timestamp rc value owner1 [] hv
  rw [List.append_nil] at hu
  exact ⟨_, by simpa only [rawRdResp, List.append_assoc] using hd, hu⟩

/-- A daemon that receives the response `process_raw_rd` packs hands its fields to the read replicator the nonce names,
if there is one, and releases it. -/
theorem rawRdResp_received (nonce timestamp : UInt64) (rc : K.Returncode) (value : Bytes) (owner1 : CommId)
    (hv : value.length < 2 ^ 32) (s : Daemon C D) (id : CommId) (draws : List UInt64) (finished : Bool) :
    loop K ops dl s id (rawRdResp K nonce rc timestamp value owner1) draws finished =
      if nonce ∈ s.replRd.keys then
        ({ s with replRd := s.replRd.release nonce finished },
          [.readReplicatorResponse nonce id rc timestamp value owner1])
      else (s, []) := by
  obtain ⟨up, hd, hu⟩ := rawRdResp_unpacks K nonce timestamp rc value owner1 hv
  simp only [loop, hd, processRawRdResp, hu]

/-! ## `KVS_RAW_WR_RESP` -/

/-- The response `process_raw_wr` packs fills the `sz` bytes it creates. -/
theorem rawWrResp_fits (nonce : UInt64) (rc : K.Returncode) (owner1 owner2 : CommId) :
    (rawWrResp K nonce rc owner1 owner2).data.length = (rawWrResp K nonce rc owner1 owner2).capacity := by
  simp only [rawWrResp, Buffer.create_packAt, List.length_append, List.length_replicate, K.length_packMsgtype,
    length_packU64, K.length_packReturncode, length_packCommId]
  omega

/-- The response `process_raw_wr` packs is dispatched as a `KVS_RAW_WR_RESP` and unpacks to exactly the fields that
were packed. -/
theorem rawWrResp_unpacks (nonce : UInt64) (rc : K.Returncode) (owner1 owner2 : CommId) :
    ∃ up, dispatch K (rawWrResp K nonce rc owner1 owner2) = some (some .kvsRawWrResp, up) ∧
      unpackRawWrResp K up = some ((nonce, rc, owner1, owner2), []) := by
  have hd := dispatch_create_packAt K
    (K.busybeeHeaderSize + K.packSizeMsgtype .kvsRawWrResp + 8 + K.packSizeReturncode rc + packSizeCommId owner1 +
      packSizeCommId owner2) .kvsRawWrResp
    (packU64 nonce ++ K.packReturncode rc ++ packCommId owner1 ++ packCommId owner2)
  have hu := unpackRawWrResp_pack K nonce rc owner1 owner2 []
  rw [List.append_nil] at hu
  exact ⟨_, by simpa only [rawWrResp, List.append_assoc] using hd, hu⟩

/-- A daemon that receives the response `process_raw_wr` packs hands its fields to the write replicator the nonce
names, if there is one, and releases it. -/
theorem rawWrResp_received (nonce : UInt64) (rc : K.Returncode) (owner1 owner2 : CommId) (s : Daemon C D)
    (id : CommId) (draws : List UInt64) (finished : Bool) :
    loop K ops dl s id (rawWrResp K nonce rc owner1 owner2) draws finished =
      if nonce ∈ s.replWr.keys then
        ({ s with replWr := s.replWr.release nonce finished }, [.writeReplicatorResponse nonce id rc owner1 owner2])
      else (s, []) := by
  obtain ⟨up, hd, hu⟩ := rawWrResp_unpacks K nonce rc owner1 owner2
  simp only [loop, hd, processRawWrResp, hu]

/-! ## `KVS_MIGRATE_ACK` -/

/-- The acknowledgement `process_migrate_syn` packs over a `KVS_MIGRATE_SYN` it unpacked stays inside that buffer:
its size and capacity are the request's. -/
theorem migrateAck_fits (msg : Buffer) (up rest : Bytes) (key : PartitionId) (version installed : VersionId)
    (hsyn : dispatch K msg = some (some .kvsMigrateSyn, up)) (hup : unpackMigrate up = some ((key, version), rest)) :
    (migrateAck K msg key installed).data.length = msg.data.length ∧
      (migrateAck K msg key installed).capacity = msg.capacity := by
  obtain ⟨b, hb, rfl⟩ := eq_append_of_unpackMigrate hup
  refine ⟨?_, rfl⟩
  rw [migrateAck, List.append_assoc]
  exact length_packAt_reply K hsyn _ (by simp [hb])

/-- That acknowledgement is dispatched as a `KVS_MIGRATE_ACK` and unpacks to the partition and the version that were
packed, followed by what followed the request's fields. -/
theorem migrateAck_unpacks (msg : Buffer) (up rest : Bytes) (key : PartitionId) (version installed : VersionId)
    (hsyn : dispatch K msg = some (some .kvsMigrateSyn, up)) (hup : unpackMigrate up = some ((key, version), rest)) :
    ∃ up', dispatch K (migrateAck K msg key installed) = some (some .kvsMigrateAck, up') ∧
      unpackMigrate up' = some ((key, installed), rest) := by
  obtain ⟨b, hb, rfl⟩ := eq_append_of_unpackMigrate hup
  have hl : (packPartitionId key ++ packVersionId installed).length = b.length := by simp [hb]
  refine ⟨migratePayload key installed ++ rest, ?_, unpackMigrate_migratePayload key installed rest⟩
  rw [migrateAck, List.append_assoc, dispatch_packAt_reply K hsyn, hl, List.drop_left, migratePayload]

/-- A daemon that receives that acknowledgement hands the version to the partition's migrator, if there is one, and
releases it. -/
theorem migrateAck_received (msg : Buffer) (up rest : Bytes) (key : PartitionId) (version installed : VersionId)
    (hsyn : dispatch K msg = some (some .kvsMigrateSyn, up)) (hup : unpackMigrate up = some ((key, version), rest))
    (s : Daemon C D) (id : CommId) (draws : List UInt64) (finished : Bool) :
    loop K ops dl s id (migrateAck K msg key installed) draws finished =
      if key ∈ s.migrations.keys then
        ({ s with migrations := s.migrations.release key finished }, [.migratorAck key installed])
      else (s, []) := by
  obtain ⟨up', hd, hu⟩ := migrateAck_unpacks K msg up rest key version installed hsyn hup
  simp only [loop, hd, processMigrateAck, hu]

/-! ## `KVS_LOCK_OP_RESP` -/

/-- Every well-formed `KVS_LOCK_OP` is answered `CONSUS_SUCCESS`, whatever its table, key, transaction, lock type and
operation: the daemon, unchanged, sends the caller one `KVS_LOCK_OP_RESP`, packed over the request and inside it, whose
first fields are the request's nonce and `CONSUS_SUCCESS`. (The handler is a placeholder that locks nothing.) -/
theorem lock_op_answers_success (s : Daemon C D) (id : CommId) (msg : Buffer) (draws : List UInt64) (finished : Bool)
    (nonce : UInt64)
    (table key txid type op rest : Bytes) (ht : table.length < 2 ^ 32) (hk : key.length < 2 ^ 32)
    (htx : txid.length = K.transactionIdWidth) (hty : type.length = K.lockTWidth) (hop : op.length = K.lockOpWidth)
    (hrc : K.returncodeWidth ≤ 8)
    (h : dispatch K msg = some (some .kvsLockOp, lockOpPayload nonce table key txid type op ++ rest)) :
    ∃ resp up, loop K ops dl s id msg draws finished = (s, [.send id resp]) ∧ resp.data.length = msg.data.length ∧
      resp.capacity = msg.capacity ∧
      dispatch K resp = some (some .kvsLockOpResp, packU64 nonce ++ K.packReturncode K.consusSuccess ++ up) := by
  refine ⟨msg.packAt K.busybeeHeaderSize (K.packMsgtype .kvsLockOpResp ++ packU64 nonce ++
    K.packReturncode K.consusSuccess), (lockOpPayload nonce table key txid type op ++ rest).drop
    (packU64 nonce ++ K.packReturncode K.consusSuccess).length, ?_, ?_, rfl, ?_⟩
  · simp only [loop, h, processLockOp,
      unpackLockOp_lockOpPayload K nonce table key txid type op rest ht hk htx hty hop]
  · rw [List.append_assoc]
    refine length_packAt_reply K h _ ?_
    simp only [lockOpPayload, List.length_append, length_packU64, K.length_packReturncode, length_packSlice,
      Constants.packSizeReturncode, packSizeSlice]
    omega
  · rw [List.append_assoc, dispatch_packAt_reply K h, List.append_assoc]

/-- A lock request with an empty table and key under the sample constants. -/
theorem lock_op_answers_success_sample :
    ∃ resp up, loop Constants.sample ConfigOps.versionOnly (DataLayer.empty _) (Daemon.sample ⟨1⟩) ⟨2⟩
        (Constants.sampleRequest .kvsLockOp (lockOpPayload 7 [] [] (List.replicate 24 0) [0] [0])) [] false =
        (Daemon.sample ⟨1⟩, [.send ⟨2⟩ resp]) ∧
      resp.data.length =
        (Constants.sampleRequest .kvsLockOp (lockOpPayload 7 [] [] (List.replicate 24 0) [0] [0])).data.length ∧
      resp.capacity =
        (Constants.sampleRequest .kvsLockOp (lockOpPayload 7 [] [] (List.replicate 24 0) [0] [0])).capacity ∧
      dispatch Constants.sample resp =
        some (some .kvsLockOpResp, packU64 7 ++ Constants.sample.packReturncode Constants.sample.consusSuccess ++ up) :=
  lock_op_answers_success Constants.sample ConfigOps.versionOnly (DataLayer.empty _) (Daemon.sample ⟨1⟩) ⟨2⟩
    (Constants.sampleRequest .kvsLockOp (lockOpPayload 7 [] [] (List.replicate 24 0) [0] [0])) [] false 7 [] []
    (List.replicate 24 0) [0] [0] [] (by decide) (by decide) (by decide) (by decide) (by decide) (by decide)
    (dispatch_create_packAt Constants.sample _ _ _)

/-- The three responses the daemon packs by hand agree with their readers, for every value of every field: each fills
exactly its buffer (the acknowledgement, the request's), and a daemon that receives it dispatches it to the matching
handler, whose unpacking raises no error and gives back exactly the fields that were packed, which it hands on to the
replicator or migrator it names, if there is one, before releasing it. -/
theorem response_codecs_agree (nonce timestamp : UInt64) (rc : K.Returncode) (value : Bytes)
    (owner1 owner2 : CommId) (msg : Buffer) (up rest : Bytes) (key : PartitionId) (version installed : VersionId)
    (hv : value.length < 2 ^ 32) (hsyn : dispatch K msg = some (some .kvsMigrateSyn, up))
    (hup : unpackMigrate up = some ((key, version), rest)) :
    ((rawRdResp K nonce rc timestamp value owner1).data.length =
        (rawRdResp K nonce rc timestamp value owner1).capacity ∧
      (∃ up, dispatch K (rawRdResp K nonce rc timestamp value owner1) = some (some .kvsRawRdResp, up) ∧
        unpackRawRdResp K up = some ((nonce, rc, timestamp, value, owner1), [])) ∧
      ∀ (s : Daemon C D) (id : CommId) (draws : List UInt64) (finished : Bool),
        loop K ops dl s id (rawRdResp K nonce rc timestamp value owner1) draws finished =
          if nonce ∈ s.replRd.keys then
            ({ s with replRd := s.replRd.release nonce finished },
              [.readReplicatorResponse nonce id rc timestamp value owner1])
          else (s, [])) ∧
    ((rawWrResp K nonce rc owner1 owner2).data.length = (rawWrResp K nonce rc owner1 owner2).capacity ∧
      (∃ up, dispatch K (rawWrResp K nonce rc owner1 owner2) = some (some .kvsRawWrResp, up) ∧
        unpackRawWrResp K up = some ((nonce, rc, owner1, owner2), [])) ∧
      ∀ (s : Daemon C D) (id : CommId) (draws : List UInt64) (finished : Bool),
        loop K ops dl s id (rawWrResp K nonce rc owner1 owner2) draws finished =
          if nonce ∈ s.replWr.keys then
            ({ s with replWr := s.replWr.release nonce finished }, [.writeReplicatorResponse nonce id rc owner1 owner2])
          else (s, [])) ∧
    ((migrateAck K msg key installed).data.length = msg.data.length ∧
      (migrateAck K msg key installed).capacity = msg.capacity ∧
      (∃ up', dispatch K (migrateAck K msg key installed) = some (some .kvsMigrateAck, up') ∧
        unpackMigrate up' = some ((key, installed), rest)) ∧
      ∀ (s : Daemon C D) (id : CommId) (draws : List UInt64) (finished : Bool),
        loop K ops dl s id (migrateAck K msg key installed) draws finished =
          if key ∈ s.migrations.keys then
            ({ s with migrations := s.migrations.release key finished }, [.migratorAck key installed])
          else (s, [])) :=
  ⟨⟨rawRdResp_fits K nonce timestamp rc value owner1, rawRdResp_unpacks K nonce timestamp rc value owner1 hv,
      rawRdResp_received K ops dl nonce timestamp rc value owner1 hv⟩,
    ⟨rawWrResp_fits K nonce rc owner1 owner2, rawWrResp_unpacks K nonce rc owner1 owner2,
      rawWrResp_received K ops dl nonce rc owner1 owner2⟩,
    ⟨(migrateAck_fits K msg up rest key version installed hsyn hup).1,
      (migrateAck_fits K msg up rest key version installed hsyn hup).2,
      migrateAck_unpacks K msg up rest key version installed hsyn hup,
      migrateAck_received K ops dl msg up rest key version installed hsyn hup⟩⟩

/-- The three responses at the sample constants: a read response with an empty value, a write response, and the
acknowledgement of a `KVS_MIGRATE_SYN` for partition `0` at version `1`, answered with version `2`. -/
theorem response_codecs_agree_sample :
    ((rawRdResp Constants.sample 0 0 0 [] ⟨0⟩).data.length =
        (rawRdResp Constants.sample 0 0 0 [] ⟨0⟩).capacity ∧
      (∃ up, dispatch Constants.sample (rawRdResp Constants.sample 0 0 0 [] ⟨0⟩) =
          some (some .kvsRawRdResp, up) ∧
        unpackRawRdResp Constants.sample up = some ((0, 0, 0, [], ⟨0⟩), [])) ∧
      ∀ (s : Daemon VersionId Unit) (id : CommId) (draws : List UInt64) (finished : Bool),
        loop Constants.sample ConfigOps.versionOnly (DataLayer.empty _) s id
            (rawRdResp Constants.sample 0 0 0 [] ⟨0⟩) draws finished =
          if (0 : UInt64) ∈ s.replRd.keys then
            ({ s with replRd := s.replRd.release 0 finished }, [.readReplicatorResponse 0 id 0 0 [] ⟨0⟩])
          else (s, [])) ∧
    ((rawWrResp Constants.sample 0 0 ⟨0⟩ ⟨0⟩).data.length =
        (rawWrResp Constants.sample 0 0 ⟨0⟩ ⟨0⟩).capacity ∧
      (∃ up, dispatch Constants.sample (rawWrResp Constants.sample 0 0 ⟨0⟩ ⟨0⟩) =
          some (some .kvsRawWrResp, up) ∧
        unpackRawWrResp Constants.sample up = some ((0, 0, ⟨0⟩, ⟨0⟩), [])) ∧
      ∀ (s : Daemon VersionId Unit) (id : CommId) (draws : List UInt64) (finished : Bool),
        loop Constants.sample ConfigOps.versionOnly (DataLayer.empty _) s id
            (rawWrResp Constants.sample 0 0 ⟨0⟩ ⟨0⟩) draws finished =
          if (0 : UInt64) ∈ s.replWr.keys then
            ({ s with replWr := s.replWr.release 0 finished }, [.writeReplicatorResponse 0 id 0 ⟨0⟩ ⟨0⟩])
          else (s, [])) ∧
    ((migrateAck Constants.sample ⟨25, List.replicate 8 0 ++ [7] ++ migratePayload ⟨0⟩ ⟨1⟩⟩ ⟨0⟩
          ⟨2⟩).data.length = 25 ∧
      (migrateAck Constants.sample ⟨25, List.replicate 8 0 ++ [7] ++ migratePayload ⟨0⟩ ⟨1⟩⟩ ⟨0⟩
          ⟨2⟩).capacity = 25 ∧
      (∃ up', dispatch Constants.sample
          (migrateAck Constants.sample ⟨25, List.replicate 8 0 ++ [7] ++ migratePayload ⟨0⟩ ⟨1⟩⟩ ⟨0⟩ ⟨2⟩) =
            some (some .kvsMigrateAck, up') ∧ unpackMigrate up' = some ((⟨0⟩, ⟨2⟩), [])) ∧
      ∀ (s : Daemon VersionId Unit) (id : CommId) (draws : List UInt64) (finished : Bool),
        loop Constants.sample ConfigOps.versionOnly (DataLayer.empty _) s id
            (migrateAck Constants.sample ⟨25, List.replicate 8 0 ++ [7] ++ migratePayload ⟨0⟩ ⟨1⟩⟩ ⟨0⟩ ⟨2⟩)
            draws finished =
          if (⟨0⟩ : PartitionId) ∈ s.migrations.keys then
            ({ s with migrations := s.migrations.release ⟨0⟩ finished }, [.migratorAck ⟨0⟩ ⟨2⟩])
          else (s, [])) :=
  response_codecs_agree Constants.sample ConfigOps.versionOnly (DataLayer.empty _) 0 0 0 [] ⟨0⟩ ⟨0⟩
    ⟨25, List.replicate 8 0 ++ [7] ++ migratePayload ⟨0⟩ ⟨1⟩⟩ (migratePayload ⟨0⟩ ⟨1⟩) [] ⟨0⟩ ⟨1⟩ ⟨2⟩
    (by decide) (by decide) (by decide)

end ConsusKvs

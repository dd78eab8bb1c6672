import ConsusKvs.Theorems.Codecs

/-!
# A raw request and its answer

A replicator sends `KVS_RAW_RD` and `KVS_RAW_WR` to the replicas of a key; the replica's `daemon::loop` hands each to
`process_raw_rd` or `process_raw_wr`, whose answer goes back to the replicator's daemon. For every key whose index is
not `CONSUS_MAX_REPLICATION_FACTOR` (the keys both handlers drop), the replica reads, writes or deletes in its data
layer as the request says, and the replicator named by the nonce receives the data layer's answer with the owners of
the key's partition, and is released (`raw_read_round_trip`, `raw_write_round_trip`).
-/

namespace ConsusKvs

variable {C D : Type} (K : Constants) (ops : ConfigOps C) (dl : DataLayer K D)

/-- A well-formed raw read of a key the handler serves: the replica reads its data layer at the request's table, key
and timestamp, stays as it was, and sends one answer; the daemon that sent the request hands the data layer's return
code, timestamp and value, with the first owner of the key's partition, to its read replicator under the nonce, if it
has one, and releases it. -/
theorem raw_read_round_trip (replica origin : Daemon C D) (idOrigin idReplica : CommId) (msg : Buffer)
    (draws draws' : List UInt64) (finished finished' : Bool) (nonce timestamp : UInt64) (table key rest : Bytes)
    (ht : table.length < 2 ^ 32)
    (hk : key.length < 2 ^ 32) (hi : chooseIndex table key ≠ K.consusMaxReplicationFactor)
    (hv : (dl.get replica.data table key timestamp).2.2.length < 2 ^ 32)
    (h : dispatch K msg = some (some .kvsRawRd, rdPayload nonce table key timestamp ++ rest)) :
    ∃ resp, loop K ops dl replica idOrigin msg draws finished = (replica, [.send idOrigin resp]) ∧
      loop K ops dl origin idReplica resp draws' finished' =
        if nonce ∈ origin.replRd.keys then
          ({ origin with replRd := origin.replRd.release nonce finished' },
            [.readReplicatorResponse nonce idReplica (dl.get replica.data table key timestamp).1
              (dl.get replica.data table key timestamp).2.1 (dl.get replica.data table key timestamp).2.2
              (ops.map replica.config replica.us.dc (chooseIndex table key)).1])
        else (origin, []) := by
  refine ⟨_, ?_, rawRdResp_received K ops dl nonce _ _ _ _ hv origin idReplica draws' finished'⟩
  simp only [loop, h]
  rw [processRawRd_eq K ops dl (unpackRd_rdPayload nonce table key timestamp rest ht hk), if_neg hi]

/-- The sample raw read of the empty key (index `0`), answered from an empty data layer to a daemon whose read
replicator `7` waits for it and is finished once it has the answer. -/
theorem raw_read_round_trip_sample :
    ∃ resp, loop Constants.sample ConfigOps.versionOnly (DataLayer.empty _) (Daemon.sample ⟨1⟩) ⟨2⟩
        (Constants.sampleRequest .kvsRawRd (rdPayload 7 [] [] 4)) [] false = (Daemon.sample ⟨1⟩, [.send ⟨2⟩ resp]) ∧
      loop Constants.sample ConfigOps.versionOnly (DataLayer.empty _)
          { Daemon.sample ⟨1⟩ with replRd := KeySet.empty.insert 7 } ⟨1⟩ resp [] true =
        if (7 : UInt64) ∈ (KeySet.empty.insert 7).keys then
          ({ Daemon.sample ⟨1⟩ with replRd := (KeySet.empty.insert 7).release 7 true },
            [.readReplicatorResponse 7 ⟨1⟩ 0 4 [] ⟨0⟩])
        else ({ Daemon.sample ⟨1⟩ with replRd := KeySet.empty.insert 7 }, []) :=
  raw_read_round_trip Constants.sample ConfigOps.versionOnly (DataLayer.empty _) (Daemon.sample ⟨1⟩)
    { Daemon.sample ⟨1⟩ with replRd := KeySet.empty.insert 7 } ⟨2⟩ ⟨1⟩
    (Constants.sampleRequest .kvsRawRd (rdPayload 7 [] [] 4)) [] [] false true 7 4 [] [] [] (by decide) (by decide)
    (by decide) (by decide) (dispatch_create_packAt Constants.sample _ _ _)

/-- A well-formed raw write of a key the handler serves: the replica deletes the key at the request's timestamp when
the flags carry `CONSUS_WRITE_TOMBSTONE`, and puts the value otherwise, keeps the data layer that results, and sends one
answer; the daemon that sent the request hands the data layer's return code, with both owners of the key's partition,
to its write replicator under the nonce, if it has one, and releases it. -/
theorem raw_write_round_trip (replica origin : Daemon C D) (idOrigin idReplica : CommId) (msg : Buffer)
    (draws draws' : List UInt64) (finished finished' : Bool) (nonce : UInt64) (flags : UInt8) (table key : Bytes)
    (timestamp : UInt64) (value rest : Bytes) (ht : table.length < 2 ^ 32) (hk : key.length < 2 ^ 32)
    (hv : value.length < 2 ^ 32) (hi : chooseIndex table key ≠ K.consusMaxReplicationFactor)
    (h : dispatch K msg = some (some .kvsRawWr, wrPayload nonce flags table key timestamp value ++ rest)) :
    ∃ resp, loop K ops dl replica idOrigin msg draws finished =
        ({ replica with data := (if K.consusWriteTombstone &&& flags ≠ 0 then dl.del replica.data table key timestamp
            else dl.put replica.data table key timestamp value).2 }, [.send idOrigin resp]) ∧
      loop K ops dl origin idReplica resp draws' finished' =
        if nonce ∈ origin.replWr.keys then
          ({ origin with replWr := origin.replWr.release nonce finished' },
            [.writeReplicatorResponse nonce idReplica (if K.consusWriteTombstone &&& flags ≠ 0 then
                dl.del replica.data table key timestamp else dl.put replica.data table key timestamp value).1
              (ops.map replica.config replica.us.dc (chooseIndex table key)).1
              (ops.map replica.config replica.us.dc (chooseIndex table key)).2])
        else (origin, []) := by
  refine ⟨_, ?_, rawWrResp_received K ops dl nonce _ _ _ origin idReplica draws' finished'⟩
  simp only [loop, h]
  rw [processRawWr_eq K ops dl (unpackWr_wrPayload nonce flags table key timestamp value rest ht hk hv), if_neg hi]

/-- The sample tombstone write (flags `1`) of the empty key, to a daemon whose write replicator `7` waits for it and
is not finished yet. -/
theorem raw_write_round_trip_sample :
    ∃ resp, loop Constants.sample ConfigOps.versionOnly (DataLayer.empty _) (Daemon.sample ⟨1⟩) ⟨2⟩
        (Constants.sampleRequest .kvsRawWr (wrPayload 7 1 [] [] 4 [])) [] false =
        ({ Daemon.sample ⟨1⟩ with data := () }, [.send ⟨2⟩ resp]) ∧
      loop Constants.sample ConfigOps.versionOnly (DataLayer.empty _)
          { Daemon.sample ⟨1⟩ with replWr := KeySet.empty.insert 7 } ⟨1⟩ resp [] false =
        if (7 : UInt64) ∈ (KeySet.empty.insert 7).keys then
          ({ Daemon.sample ⟨1⟩ with replWr := (KeySet.empty.insert 7).release 7 false },
            [.writeReplicatorResponse 7 ⟨1⟩ 0 ⟨0⟩ ⟨0⟩])
        else ({ Daemon.sample ⟨1⟩ with replWr := KeySet.empty.insert 7 }, []) :=
  raw_write_round_trip Constants.sample ConfigOps.versionOnly (DataLayer.empty _) (Daemon.sample ⟨1⟩)
    { Daemon.sample ⟨1⟩ with replWr := KeySet.empty.insert 7 } ⟨2⟩ ⟨1⟩
    (Constants.sampleRequest .kvsRawWr (wrPayload 7 1 [] [] 4 [])) [] [] false false 7 1 [] [] 4 [] [] (by decide)
    (by decide) (by decide) (by decide) (dispatch_create_packAt Constants.sample _ _ _)

end ConsusKvs

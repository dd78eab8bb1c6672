import ConsusKvs.Handlers
import ConsusKvs.Instances

/-!
# Which keys the raw handlers serve

`process_raw_rd` and `process_raw_wr` drop a request whose key's index is `CONSUS_MAX_REPLICATION_FACTOR`;
`choose_replicas`, which picks the replicas a replicated request is sent to, drops only the index
`CONSUS_KVS_PARTITIONS`. A key that starts with two bytes spells its index (`chooseIndex_packBE`), so whenever the
replication factor is a valid partition index, the key that spells it is sent to its replicas and then silently dropped
by every one of them: no read or write, no answer (`raw_handlers_drop_replication_factor_index`).
-/

namespace ConsusKvs

variable {C D : Type} (K : Constants) (ops : ConfigOps C) (dl : DataLayer K D)

/-- The index of a key that starts with the two big-endian bytes of `n`. -/
theorem chooseIndex_packBE (table : Bytes) (n : Nat) (rest : Bytes) :
    chooseIndex table (packBE 2 n ++ rest) = n % 2 ^ 16 := by
  have h2 : (packBE 2 n ++ rest).take 2 = packBE 2 n := List.take_left' (length_packBE 2 n)
  have h0 : 2 - (packBE 2 n ++ rest).length = 0 := by simp
  rw [chooseIndex, h2, h0, List.replicate_zero, List.append_nil, unpackBE_packBE]
  norm_num

/-- When `CONSUS_MAX_REPLICATION_FACTOR` is a partition index below `CONSUS_KVS_PARTITIONS`, the key that spells it
has a valid partition, which `choose_replicas` hashes to its replicas; yet every well-formed raw read or raw write of
that key, whatever its table, timestamp, flags and value, leaves the daemon as it was and answers nothing. -/
theorem raw_handlers_drop_replication_factor_index (s : Daemon C D) (id : CommId) (nonce timestamp : UInt64)
    (flags : UInt8) (table value rest : Bytes) (ht : table.length < 2 ^ 32) (hv : value.length < 2 ^ 32)
    (hp : K.consusMaxReplicationFactor < K.consusKvsPartitions) (h16 : K.consusMaxReplicationFactor < 2 ^ 16) :
    chooseIndex table (packBE 2 K.consusMaxReplicationFactor) < K.consusKvsPartitions ∧
    chooseReplicas K ops s table (packBE 2 K.consusMaxReplicationFactor) =
      (((ops.hash s.config (ops.getDataCenter s.config s.us.id) K.consusMaxReplicationFactor).getD []).take 5, 5) ∧
    processRawRd K ops dl s id (rdPayload nonce table (packBE 2 K.consusMaxReplicationFactor) timestamp ++ rest) =
      (s, []) ∧
    processRawWr K ops dl s id
      (wrPayload nonce flags table (packBE 2 K.consusMaxReplicationFactor) timestamp value ++ rest) = (s, []) := by
  have hi : chooseIndex table (packBE 2 K.consusMaxReplicationFactor) = K.consusMaxReplicationFactor := by
    have h := chooseIndex_packBE table K.consusMaxReplicationFactor []
    rwa [List.append_nil, Nat.mod_eq_of_lt h16] at h
  have hk : (packBE 2 K.consusMaxReplicationFactor).length < 2 ^ 32 := by
    rw [length_packBE]
    norm_num
  refine ⟨by rwa [hi], ?_, ?_, ?_⟩
  · simp only [chooseReplicas, hi, Nat.ne_of_lt hp, if_false]
  · rw [processRawRd_eq K ops dl (unpackRd_rdPayload _ _ _ _ _ ht hk), if_pos hi]
  · rw [processRawWr_eq K ops dl (unpackWr_wrPayload _ _ _ _ _ _ _ ht hk hv), if_pos hi]

/-- With the replication factor `9` and `65536` partitions, a raw read and a raw write of the key `[0, 9]` are
dropped, though `choose_replicas` sends the key to the first five of the seven replicas its index hashes to. -/
theorem raw_handlers_drop_replication_factor_index_sample :
    (chooseIndex [] (packBE 2 9) < 65536 ∧
    chooseReplicas Constants.sample ConfigOps.sevenReplicas (Daemon.sample ⟨1⟩) [] (packBE 2 9) =
      (((ConfigOps.sevenReplicas.hash ⟨1⟩ ⟨0⟩ 9).getD []).take 5, 5) ∧
    processRawRd Constants.sample ConfigOps.sevenReplicas (DataLayer.empty _) (Daemon.sample ⟨1⟩) ⟨2⟩
      (rdPayload 0 [] (packBE 2 9) 0 ++ []) = (Daemon.sample ⟨1⟩, []) ∧
    processRawWr Constants.sample ConfigOps.sevenReplicas (DataLayer.empty _) (Daemon.sample ⟨1⟩) ⟨2⟩
      (wrPayload 0 0 [] (packBE 2 9) 0 [] ++ []) = (Daemon.sample ⟨1⟩, [])) ∧
    ((ConfigOps.sevenReplicas.hash ⟨1⟩ ⟨0⟩ 9).getD []).take 5 = [⟨72⟩, ⟨73⟩, ⟨74⟩, ⟨75⟩, ⟨76⟩] :=
  ⟨(raw_handlers_drop_replication_factor_index Constants.sample ConfigOps.sevenReplicas (DataLayer.empty _)
    (Daemon.sample ⟨1⟩) ⟨2⟩ 0 0 0 [] [] [] (by decide) (by decide) (by decide) (by decide)), by decide⟩

end ConsusKvs

import ConsusKvs.Handlers
import ConsusKvs.Instances

/-!
# The read replicator a replicated read creates

`process_rep_rd` creates a read replicator under the first draw of `generate_id` that is not a key of `m_repl_rd`
already, and initialises it with the caller, the nonce, the table and the key, but not the timestamp, which it unpacks
and never uses. Two replicated reads that differ only in their timestamp bound are therefore handled identically
(`rep_rd_drops_timestamp`).
-/

namespace ConsusKvs

variable {C D : Type} (K : Constants) (ops : ConfigOps C) (dl : DataLayer K D)

/-- A `KVS_REP_RD` that unpacks reaches `process_rep_rd`, which creates a read replicator from its nonce, table and
key. -/
theorem loop_repRd {s : Daemon C D} {id : CommId} {msg : Buffer} {nonce timestamp : UInt64} {table key rest : Bytes}
    (draws : List UInt64) (finished : Bool) (ht : table.length < 2 ^ 32) (hk : key.length < 2 ^ 32)
    (h : dispatch K msg = some (some .kvsRepRd, rdPayload nonce table key timestamp ++ rest)) :
    loop K ops dl s id msg draws finished = createReadReplicator K s id nonce table key draws finished := by
  simp only [loop, h]
  exact processRepRd_eq K draws finished (unpackRd_rdPayload nonce table key timestamp rest ht hk)

/-- Two well-formed `KVS_REP_RD` requests that differ only in their timestamp bound (and in what follows their fields)
are handled identically: the same replicator, created under the same draw and initialised with the caller, the nonce,
the table and the key, and the same daemon after them. No timestamp reaches the replicator. -/
theorem rep_rd_drops_timestamp (s : Daemon C D) (id : CommId) (draws : List UInt64) (finished : Bool)
    (msg₁ msg₂ : Buffer) (nonce ts₁ ts₂ : UInt64) (table key rest₁ rest₂ : Bytes) (ht : table.length < 2 ^ 32)
    (hk : key.length < 2 ^ 32)
    (h₁ : dispatch K msg₁ = some (some .kvsRepRd, rdPayload nonce table key ts₁ ++ rest₁))
    (h₂ : dispatch K msg₂ = some (some .kvsRepRd, rdPayload nonce table key ts₂ ++ rest₂)) :
    loop K ops dl s id msg₁ draws finished = loop K ops dl s id msg₂ draws finished ∧
      loop K ops dl s id msg₁ draws finished = createReadReplicator K s id nonce table key draws finished := by
  rw [loop_repRd K ops dl draws finished ht hk h₁, loop_repRd K ops dl draws finished ht hk h₂]
  exact ⟨rfl, rfl⟩

/-- Read requests bounded at timestamps `1` and `2`, for the empty table and key, create the same replicator. -/
theorem rep_rd_drops_timestamp_sample :
    loop Constants.sample ConfigOps.versionOnly (DataLayer.empty _) (Daemon.sample ⟨1⟩) ⟨2⟩
        (Constants.sampleRequest .kvsRepRd (rdPayload 7 [] [] 1)) [3] false =
      loop Constants.sample ConfigOps.versionOnly (DataLayer.empty _) (Daemon.sample ⟨1⟩) ⟨2⟩
        (Constants.sampleRequest .kvsRepRd (rdPayload 7 [] [] 2)) [3] false ∧
    loop Constants.sample ConfigOps.versionOnly (DataLayer.empty _) (Daemon.sample ⟨1⟩) ⟨2⟩
        (Constants.sampleRequest .kvsRepRd (rdPayload 7 [] [] 1)) [3] false =
      createReadReplicator Constants.sample (Daemon.sample ⟨1⟩) ⟨2⟩ 7 [] [] [3] false :=
  rep_rd_drops_timestamp Constants.sample ConfigOps.versionOnly (DataLayer.empty _) (Daemon.sample ⟨1⟩) ⟨2⟩ [3] false
    (Constants.sampleRequest .kvsRepRd (rdPayload 7 [] [] 1)) (Constants.sampleRequest .kvsRepRd (rdPayload 7 [] [] 2))
    7 1 2 [] [] [] [] (by decide) (by decide) (by decide) (by decide)

end ConsusKvs

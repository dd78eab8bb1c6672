import ConsusKvs.Run
import ConsusKvs.Handlers

/-!
# The data layer is the raw writes it accepted

Only `process_raw_wr` calls `put` or `del`; every other handler, and `new_config`, leaves `m_data` alone. So over every
run, whatever the reads, the replicated requests, the acknowledgements and the configurations in between, the data layer
holds what the run's accepted raw writes leave it with, applied in the order they arrived
(`run_data_applies_raw_writes`). A raw write is accepted when it unpacks and its key's index is not
`CONSUS_MAX_REPLICATION_FACTOR`; it deletes under `CONSUS_WRITE_TOMBSTONE` and puts otherwise.
-/

namespace ConsusKvs

variable {C D : Type} (K : Constants) (ops : ConfigOps C) (dl : DataLayer K D)

/-- What a `KVS_RAW_WR` asks of the data layer: its flags, table, key, timestamp and value. -/
structure RawWrite where
  flags : UInt8
  table : Bytes
  key : Bytes
  timestamp : UInt64
  value : Bytes
  deriving DecidableEq

/-- A raw write on the data layer's contents: `del` under `CONSUS_WRITE_TOMBSTONE`, `put` otherwise. -/
def RawWrite.apply (d : D) (w : RawWrite) : D :=
  if K.consusWriteTombstone &&& w.flags ≠ 0 then (dl.del d w.table w.key w.timestamp).2
  else (dl.put d w.table w.key w.timestamp w.value).2

/-- The raw write an event makes the daemon accept: a `KVS_RAW_WR` that unpacks, of a key whose index is not
`CONSUS_MAX_REPLICATION_FACTOR`. -/
def Event.rawWrite? : Event → Option RawWrite
  | .message _ msg _ _ =>
    match dispatch K msg with
    | some (some .kvsRawWr, up) =>
      match unpackWr up with
      | some ((_, flags, table, key, timestamp, value), _) =>
        if chooseIndex table key = K.consusMaxReplicationFactor then none
        else some ⟨flags, table, key, timestamp, value⟩
      | none => none
    | _ => none
  | .newConfig _ => none

namespace StorageAux

/-- Every handler but `process_raw_wr` leaves the data layer as it was. -/
theorem loop_data_of_ne {s : Daemon C D} {id : CommId} {msg : Buffer} {draws : List UInt64} {finished : Bool}
    (h : ∀ up, dispatch K msg ≠ some (some .kvsRawWr, up)) :
    (loop K ops dl s id msg draws finished).1.data = s.data := by
  rcases loop_cases K ops dl s id msg draws finished with hs | ⟨up, _, hd, _⟩ | ⟨_, hs⟩ | ⟨_, hs⟩ | ⟨_, hs⟩
  · rw [hs]
  · exact absurd hd (h up)
  all_goals rw [hs]

/-- One event applies to the data layer the raw write it makes the daemon accept, if any. -/
theorem step_data (s : Daemon C D) (e : Event) :
    (s.step K ops dl e).1.data = ((e.rawWrite? K).map (RawWrite.apply K dl s.data)).getD s.data := by
  cases e with
  | newConfig data =>
    simp only [Daemon.step, newConfig, Event.rawWrite?]
    split <;> rfl
  | message id msg draws finished =>
    simp only [Daemon.step, Event.rawWrite?]
    split
    next up hd =>
      simp only [loop, hd, processRawWr]
      rcases unpackWr up with _ | ⟨⟨nonce, flags, table, key, timestamp, value⟩, rest⟩
      · rfl
      · dsimp only
        split_ifs with hi ht
        · rfl
        · simp only [Option.map_some', Option.getD_some, RawWrite.apply, if_pos ht]
        · simp only [Option.map_some', Option.getD_some, RawWrite.apply, if_neg ht]
    next hd => exact loop_data_of_ne K ops dl fun up h => hd up h

end StorageAux

open StorageAux

/-- Over every run of `new_config` calls and messages, from every daemon: the data layer ends as the run's accepted raw
writes leave it, each applied once, in the order they arrived. No read, replicated request, response, lock operation,
migration message or configuration changes it. -/
theorem run_data_applies_raw_writes (s : Daemon C D) (es : List Event) :
    (s.run K ops dl es).1.data = (es.filterMap (Event.rawWrite? K)).foldl (RawWrite.apply K dl) s.data := by
  induction es generalizing s with
  | nil => rfl
  | cons e es ih =>
    rw [Daemon.run_cons_fst, ih, step_data, List.filterMap_cons]
    cases e.rawWrite? K <;> rfl

end ConsusKvs

import ConsusKvs.Daemon

/-!
# `new_config` against a raw handler, store by store

Once its blob has decoded, `coordinator_callback::new_config` makes two stores: `m_us.dc`, read from the new
configuration, and then `m_config`, with release. `process_raw_rd` and `process_raw_wr` load `m_config` once, with
`get_config()` right after unpacking, and read `m_us.dc` later, when they ask the configuration they loaded for the
owners of the key's index. Run.lean and the migration machine take a handler, and the two stores together, as one
step each. Here they are cut where the source reads and writes shared state: the two stores, and each raw handler at
its load, so that a network thread and the coordinator link can interleave between them. `m_us.dc` is a plain field
the coordinator thread writes while network threads read it; a read here sees the last store before it.

The flag `new_config` then sets for the migration thread is left out: no raw handler reads it.
-/

namespace ConsusKvs

variable {C D : Type} (K : Constants) (ops : ConfigOps C) (dl : DataLayer K D)

/-! ## The two sides, step by step -/

/-- The first store of `new_config` once the blob has decoded as `c`: `m_us.dc`, read from `c`. -/
def Daemon.storeDc (s : Daemon C D) (c : C) : Daemon C D :=
  { s with us := { s.us with dc := ops.getDataCenter c s.us.id } }

/-- The second store of `new_config`: `c` released into `m_config`. -/
def Daemon.storeConfig (s : Daemon C D) (c : C) : Daemon C D := { s with config := c }

/-- The two stores one after the other are the publication of the atomic model. -/
theorem Daemon.storeDc_storeConfig (s : Daemon C D) (c : C) : (s.storeDc ops c).storeConfig c = s.publish ops c :=
  rfl

/-- `daemon::process_raw_rd` from its `get_config()` on, with `c` the configuration it loaded; `m_us.dc` and the data
layer are read when it asks for the owners. -/
def processRawRdFrom (s : Daemon C D) (c : C) (id : CommId) (up : Bytes) : Daemon C D × List (Effect K) :=
  match unpackRd up with
  | none => (s, [])
  | some ((nonce, table, key, timestamp), _) =>
    let index := chooseIndex table key
    if index = K.consusMaxReplicationFactor then (s, [])
    else
      let owners := ops.map c s.us.dc index
      let got := dl.get s.data table key timestamp
      (s, [.send id (rawRdResp K nonce got.1 got.2.1 got.2.2 owners.1)])

/-- `daemon::process_raw_wr` from its `get_config()` on, with `c` the configuration it loaded. -/
def processRawWrFrom (s : Daemon C D) (c : C) (id : CommId) (up : Bytes) : Daemon C D × List (Effect K) :=
  match unpackWr up with
  | none => (s, [])
  | some ((nonce, flags, table, key, timestamp, value), _) =>
    let index := chooseIndex table key
    if index = K.consusMaxReplicationFactor then (s, [])
    else
      let owners := ops.map c s.us.dc index
      let done := if K.consusWriteTombstone &&& flags ≠ 0 then dl.del s.data table key timestamp
        else dl.put s.data table key timestamp value
      ({ s with data := done.2 }, [.send id (rawWrResp K nonce done.1 owners.1 owners.2)])

/-- A raw handler whose load and finish are not separated is the handler of the atomic model. -/
theorem processRawRd_eq_from (s : Daemon C D) (id : CommId) (up : Bytes) :
    processRawRd K ops dl s id up = processRawRdFrom K ops dl s s.config id up := rfl

theorem processRawWr_eq_from (s : Daemon C D) (id : CommId) (up : Bytes) :
    processRawWr K ops dl s id up = processRawWrFrom K ops dl s s.config id up := rfl

/-! ## The two threads -/

variable {K}

/-- Where `new_config` is: before its stores, between them, or past them. -/
inductive StorePc where
  | before
  | dcStored
  | after
  deriving DecidableEq, Repr

/-- Where the raw handler is: before `get_config()`, past it with the configuration it loaded, or returned. -/
inductive HandlerPc (C : Type) where
  | before
  | loaded (c : C)
  | after
  deriving DecidableEq, Repr

/-- The daemon while one call of `new_config` and one raw handler run, the two places, and what the handler did. -/
structure Overlap (K : Constants) (C D : Type) where
  d : Daemon C D
  store : StorePc
  handler : HandlerPc C
  effects : List (Effect K)

/-- The thread that moves: the coordinator link in `new_config`, or the network thread in the handler. -/
inductive Mover where
  | coordinator
  | network
  deriving DecidableEq, Repr

/-- The next step of the mover, for `new_config` installing `c` and the handler `h` from its load on; `none` once the
mover is done. -/
def Overlap.step (c : C) (h : Daemon C D → C → Daemon C D × List (Effect K)) (x : Overlap K C D) :
    Mover → Option (Overlap K C D)
  | .coordinator =>
    match x.store with
    | .before => some { x with d := x.d.storeDc ops c, store := .dcStored }
    | .dcStored => some { x with d := x.d.storeConfig c, store := .after }
    | .after => none
  | .network =>
    match x.handler with
    | .before => some { x with handler := .loaded x.d.config }
    | .loaded c' => some { x with d := (h x.d c').1, handler := .after, effects := (h x.d c').2 }
    | .after => none

/-- A schedule of the two threads, or `none` if it moves a thread that is done. -/
def Overlap.exec (c : C) (h : Daemon C D → C → Daemon C D × List (Effect K)) (x : Overlap K C D) :
    List Mover → Option (Overlap K C D)
  | [] => some x
  | t :: ts => (x.step ops c h t).bind fun y => y.exec c h ts

/-- Both threads at their start, on the daemon `s`. -/
def Overlap.start (s : Daemon C D) : Overlap K C D := ⟨s, .before, .before, []⟩

end ConsusKvs

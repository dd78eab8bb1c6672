import ConsusKvs.Daemon

/-!
# The daemon over a run

Two places drive the daemon once `daemon::run` has started it: the coordinator link, which calls
`coordinator_callback::new_config` with each configuration blob it receives, and the network threads, which run one
turn of `daemon::loop` per message. A run is a list of these events in the order they take effect; it gives the daemon
after them and everything its handlers did, in order.
-/

namespace ConsusKvs

/-- What reaches the daemon: a configuration blob from the coordinator, or a message from a peer with the draws of
`generate_id` its handler makes and whether the state its handler holds a reference to is finished at the release. -/
inductive Event where
  | newConfig (data : Bytes)
  | message (id : CommId) (msg : Buffer) (draws : List UInt64) (finished : Bool)

variable {C D : Type} (K : Constants) (ops : ConfigOps C) (dl : DataLayer K D)

/-- One event: `new_config`, whose answer goes to the coordinator and not into the run, or one turn of
`daemon::loop`. -/
def Daemon.step (s : Daemon C D) : Event → Daemon C D × List (Effect K)
  | .newConfig data => ((newConfig ops s data).1, [])
  | .message id msg draws finished => loop K ops dl s id msg draws finished

/-- The events one after another, the effects of each after those of the one before. -/
def Daemon.run (s : Daemon C D) : List Event → Daemon C D × List (Effect K)
  | [] => (s, [])
  | e :: es =>
    let r := s.step K ops dl e
    let r' := r.1.run es
    (r'.1, r.2 ++ r'.2)

@[simp] theorem Daemon.run_nil (s : Daemon C D) : s.run K ops dl [] = (s, []) := rfl

@[simp] theorem Daemon.run_cons_fst (s : Daemon C D) (e : Event) (es : List Event) :
    (s.run K ops dl (e :: es)).1 = ((s.step K ops dl e).1.run K ops dl es).1 := rfl

end ConsusKvs

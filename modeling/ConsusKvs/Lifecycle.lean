import ConsusKvs.Migration

/-!
# `daemon::run`

Before its threads start, `daemon::run` makes a chain of calls that can each fail, and returns `EXIT_FAILURE` at the
first that does: blocking signals, daemonizing, installing the six signal handlers, opening the data layer, loading
the identity and, when none was saved, drawing a fresh one. It then registers with the coordinator, with `establish`
for a saved identity and `initial_registration` for a fresh one. While that call runs, the coordinator link hands every
configuration it receives to `coordinator_callback::new_config`; `m_config` is `NULL` until one decodes, and
`assert(get_config())` stops the process if none did. The identity is saved, busybee is created, and the network
threads and then the migration thread start: this module ends there, with the daemon they start on.

What the system, the disk and the coordinator answer is an input (`Startup`), as the draws of `generate_id` are for
the handlers. Logging, the pid file, the signal handlers' flags and the debug dump are not modelled, and neither are
the main loop that follows the start, the shutdown, nor the network threads' receive loop, whose `abort()` on a
busybee error can end the process at any time.
-/

namespace ConsusKvs

/-- What `daemon::run` gets back, in the order it asks, from the system, the disk and the coordinator. `Loc` is a
`po6::net::location`. -/
structure Startup (D Loc : Type) where
  blockAllSignals : Bool
  daemonize : Bool
  /-- Whether all six `install_signal_handler` calls succeed. -/
  installSignalHandlers : Bool
  /-- `m_data->init(data)`: the data layer's contents, `none` when it fails. -/
  dataInit : Option D
  /-- `load_identity`: whether an identity was saved, its id, and the bind address and coordinator it leaves; `none`
  when it fails. -/
  loadIdentity : Option (Bool × UInt64 × Loc × String)
  /-- `generate_token`: a fresh id, `none` when `/dev/urandom` cannot be read. -/
  generateToken : Option UInt64
  /-- The blobs the coordinator link hands to `new_config` while `daemon::run` registers, in order. -/
  coordinatorConfigs : List Bytes
  /-- Whether `establish` or `initial_registration` returns `true`. -/
  registered : Bool
  saveIdentity : Bool

/-- How `daemon::run` registers with the coordinator. -/
inductive Registration where
  | establish
  | initialRegistration
  deriving DecidableEq, Repr

/-- What `daemon::run` registers, saves and binds busybee to once it has an identity: the registration call, `m_us.id`,
the bind address, the coordinator, and the number of network threads. -/
structure Wiring (Loc : Type) where
  registration : Registration
  id : CommId
  bindTo : Loc
  rendezvous : String
  threads : Nat

/-- Where the start of `daemon::run` ends: `EXIT_FAILURE` before any thread, a failed `assert(get_config())`, or the
daemon its threads start on. -/
inductive RunStart (C D Loc : Type) where
  | exitFailure
  | assertionFailed
  | started (s : Daemon C D) (w : Wiring Loc)

variable {C D Loc : Type} (ops : ConfigOps C)

/-- The configuration `new_config` installs from a blob: one that unpacks with no error and nothing left over. -/
def decodeConfig (data : Bytes) : Option C :=
  match ops.unpack data with
  | some (c, []) => some c
  | _ => none

/-- `m_us` once `daemon::run` has its identity: the id, and the data center `m_us()` starts with, which the first
configuration replaces. -/
def Us.boot (id : UInt64) : Us := ⟨⟨id⟩, ⟨0⟩⟩

/-- `coordinator_callback::new_config` while `daemon::run` registers, before any thread runs: no daemon while `m_config`
is `NULL`, and from the first blob that decodes, the daemon as `new_config` leaves it. The configuration it replaces is
only handed to the garbage collector, so the first is installed as every later one is. -/
def bootConfig (us : Us) (data : D) : Option (Daemon C D) → Bytes → Option (Daemon C D)
  | some s, blob => some (newConfig ops s blob).1
  | none, blob =>
    (decodeConfig ops blob).map fun c => (newConfig ops ⟨us, c, data, .empty, .empty, .empty, false⟩ blob).1

/-- The identity `daemon::run` registers: the saved one with `establish`, or else a fresh token with
`initial_registration`; `none` when no token can be drawn. -/
def identityToRegister (saved : Bool) (loaded : UInt64) (token : Option UInt64) : Option (UInt64 × Registration) :=
  if saved then some (loaded, .establish) else token.map fun t => (t, .initialRegistration)

/-- `daemon::run` up to the start of its threads. -/
def runStart (env : Startup D Loc) (threads : Nat) : RunStart C D Loc :=
  if !(env.blockAllSignals && env.daemonize && env.installSignalHandlers) then .exitFailure
  else
    match env.dataInit, env.loadIdentity with
    | some data, some (saved, loaded, bindTo, rendezvous) =>
      match identityToRegister saved loaded env.generateToken with
      | none => .exitFailure
      | some (id, registration) =>
        if !env.registered then .exitFailure
        else
          match env.coordinatorConfigs.foldl (bootConfig ops (Us.boot id) data) none with
          | none => .assertionFailed
          | some s =>
            if !env.saveIdentity then .exitFailure
            else .started s ⟨registration, ⟨id⟩, bindTo, rendezvous, threads⟩
    | _, _ => .exitFailure

/-- The machine of the two threads where `daemon::run` starts them: the coordinator between calls, the migration
thread waiting, and no round done. -/
def Daemon.startMachine (s : Daemon C D) : Machine C D := ⟨s, .idle, .waiting, none⟩

end ConsusKvs

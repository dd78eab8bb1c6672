import ConsusKvs.Daemon

/-!
# The migration thread against the coordinator

`coordinator_callback::new_config` runs on the coordinator's thread and `migration_bgthread` on its own, and they share
`m_config` and `m_have_new_config`. Each is cut into the steps it takes atomically. A call of `new_config` is two:
`publish` (the data center and `m_config` stored) and `signal` (`m_have_new_config` set under the thread's mutex). The
thread waits until `have_work()` holds (`wake`) and then runs `do_work`, which is four: `clear` (`m_have_new_config`
cleared under the mutex), `read` (`get_config()` and `migratable_partitions`), `create` (the first loop: every
partition's migrator got or created, and worked) and, after the one-second sleep, `sweep` (the second loop: every
migrator worked if its partition was read, terminated otherwise). Both loops release each migrator after calling it,
and the map reclaims those that are finished then. The network threads take a `message` step at any time. A `Machine`
is the daemon with where each thread is; `Machine.step` is what one step does, and `none` when it cannot be taken.

The migrators themselves are not part of the source: the thread's calls into them are recorded as `MigratorCall`s, and
the last completed round is kept with the configuration it read and the partitions it computed.
-/

namespace ConsusKvs

/-- A call of the migration thread into a migrator: `externally_work_state_machine` or `terminate`. -/
inductive MigratorCall where
  | work (key : PartitionId)
  | terminate (key : PartitionId)
  deriving DecidableEq, Repr

variable {C D : Type} (K : Constants) (ops : ConfigOps C) (dl : DataLayer K D)

/-! ## The steps of `do_work` -/

/-- `migration_bgthread::have_work`. -/
def Daemon.haveWork (s : Daemon C D) : Bool := s.haveNewConfig

/-- The first block of `do_work`: `m_have_new_config` cleared. -/
def Daemon.clearHaveNewConfig (s : Daemon C D) : Daemon C D := { s with haveNewConfig := false }

/-- A pass of the first loop of `do_work`: `get_or_create_state(p, &msr)`, the migrator worked, and `msr` released at
the end of the pass. -/
def createPass (finished : List PartitionId) (ms : KeySet PartitionId) (p : PartitionId) : KeySet PartitionId :=
  (ms.insert p).release p (decide (p ∈ finished))

/-- The first loop of `do_work`: for every partition read, its migrator got or created and then worked; of these, the
map reclaims those in `finished`. -/
def Daemon.createMigrators (s : Daemon C D) (parts finished : List PartitionId) : Daemon C D × List MigratorCall :=
  ({ s with migrations := parts.foldl (createPass finished) s.migrations }, parts.map .work)

/-- A step of the second loop of `do_work`: the iterator releases the migrator it passes. -/
def sweepPass (finished : List PartitionId) (ms : KeySet PartitionId) (q : PartitionId) : KeySet PartitionId :=
  ms.release q (decide (q ∈ finished))

/-- The second loop of `do_work`: every migrator of the map worked if its partition was read, terminated otherwise;
of these, the map reclaims those in `finished`. -/
def Daemon.sweepMigrators (s : Daemon C D) (parts finished : List PartitionId) : Daemon C D × List MigratorCall :=
  ({ s with migrations := s.migrations.keys.foldl (sweepPass finished) s.migrations },
    s.migrations.keys.map fun m => if m ∈ parts then .work m else .terminate m)

/-- The sweep only takes migrators out of the map. -/
theorem mem_of_mem_foldl_sweepPass {finished qs : List PartitionId} {ms : KeySet PartitionId} {q : PartitionId}
    (h : q ∈ (qs.foldl (sweepPass finished) ms).keys) : q ∈ ms.keys := by
  induction qs generalizing ms with
  | nil => exact h
  | cons q' qs ih => exact KeySet.mem_of_mem_release (ih h)

/-! ## Where each thread is -/

/-- Where the coordinator's thread is: outside `new_config`, or between its store of `m_config` and its signal. -/
inductive CoordPc where
  | idle
  | published
  deriving DecidableEq, Repr

/-- Where the migration thread is: waiting for `have_work()`, woken and about to call `do_work`, or inside it after its
first block, after the read, or after the first loop (in the sleep), with what it read. -/
inductive MigratePc (C : Type) where
  | waiting
  | woken
  | cleared
  | read (c : C) (parts : List PartitionId)
  | created (c : C) (parts : List PartitionId) (calls : List MigratorCall)
  deriving DecidableEq

/-- A completed `do_work`: the configuration it read, the partitions it computed from it, its calls in order. -/
structure Round (C : Type) where
  config : C
  parts : List PartitionId
  calls : List MigratorCall
  deriving DecidableEq

/-- The daemon with both threads: where each is, and the last round of `do_work` that completed. -/
structure Machine (C D : Type) where
  d : Daemon C D
  coord : CoordPc
  migrate : MigratePc C
  lastRound : Option (Round C)
  deriving DecidableEq

/-- An atomic step of one of the threads. `create` and `sweep` carry the migrators that are finished when the loop
releases them, and `message` whether the state its handler holds is finished. -/
inductive Action where
  | publish (data : Bytes)
  | signal
  | wake
  | clear
  | read
  | create (finished : List PartitionId)
  | sweep (finished : List PartitionId)
  | message (id : CommId) (msg : Buffer) (draws : List UInt64) (finished : Bool)

/-- One step. `publish` decodes the blob as `new_config` does and is not taken for a blob it refuses, which changes
nothing. -/
def Machine.step (m : Machine C D) : Action → Option (Machine C D)
  | .publish data =>
    match m.coord, ops.unpack data with
    | .idle, some (c, []) => some { m with d := m.d.publish ops c, coord := .published }
    | _, _ => none
  | .signal =>
    match m.coord with
    | .published => some { m with d := m.d.signal, coord := .idle }
    | .idle => none
  | .wake =>
    match m.migrate with
    | .waiting => if m.d.haveWork then some { m with migrate := .woken } else none
    | _ => none
  | .clear =>
    match m.migrate with
    | .woken => some { m with d := m.d.clearHaveNewConfig, migrate := .cleared }
    | _ => none
  | .read =>
    match m.migrate with
    | .cleared => some { m with migrate := .read m.d.config (ops.migratablePartitions m.d.config m.d.us.id) }
    | _ => none
  | .create finished =>
    match m.migrate with
    | .read c parts =>
      some { m with d := (m.d.createMigrators parts finished).1,
                    migrate := .created c parts (m.d.createMigrators parts finished).2 }
    | _ => none
  | .sweep finished =>
    match m.migrate with
    | .created c parts calls =>
      some { m with d := (m.d.sweepMigrators parts finished).1, migrate := .waiting,
                    lastRound := some ⟨c, parts, calls ++ (m.d.sweepMigrators parts finished).2⟩ }
    | _ => none
  | .message id msg draws finished => some { m with d := (loop K ops dl m.d id msg draws finished).1 }

/-- What a step can do: each action's guard and the machine after it. -/
theorem Machine.step_cases {m m' : Machine C D} {a : Action} (h : m.step K ops dl a = some m') :
    (∃ c, m.coord = .idle ∧ m' = { m with d := m.d.publish ops c, coord := .published }) ∨
    (m.coord = .published ∧ m' = { m with d := m.d.signal, coord := .idle }) ∨
    (m.migrate = .waiting ∧ m.d.haveWork = true ∧ m' = { m with migrate := .woken }) ∨
    (m.migrate = .woken ∧ m' = { m with d := m.d.clearHaveNewConfig, migrate := .cleared }) ∨
    (m.migrate = .cleared ∧
      m' = { m with migrate := .read m.d.config (ops.migratablePartitions m.d.config m.d.us.id) }) ∨
    (∃ c parts finished, m.migrate = .read c parts ∧
      m' = { m with d := (m.d.createMigrators parts finished).1,
                    migrate := .created c parts (m.d.createMigrators parts finished).2 }) ∨
    (∃ c parts calls finished, m.migrate = .created c parts calls ∧
      m' = { m with d := (m.d.sweepMigrators parts finished).1, migrate := .waiting,
                    lastRound := some ⟨c, parts, calls ++ (m.d.sweepMigrators parts finished).2⟩ }) ∨
    ∃ id msg draws finished, m' = { m with d := (loop K ops dl m.d id msg draws finished).1 } := by
  cases a <;> simp only [Machine.step] at h
  case publish => split at h <;> cases h; exact .inl ⟨_, ‹_›, rfl⟩
  case signal => split at h <;> cases h; exact .inr (.inl ⟨‹_›, rfl⟩)
  case wake =>
    split at h
    · split_ifs at h with hw
      cases h
      exact .inr (.inr (.inl ⟨‹_›, hw, rfl⟩))
    · cases h
  case clear => split at h <;> cases h; exact .inr (.inr (.inr (.inl ⟨‹_›, rfl⟩)))
  case read => split at h <;> cases h; exact .inr (.inr (.inr (.inr (.inl ⟨‹_›, rfl⟩))))
  case create => split at h <;> cases h; exact .inr (.inr (.inr (.inr (.inr (.inl ⟨_, _, _, ‹_›, rfl⟩)))))
  case sweep => split at h <;> cases h; exact .inr (.inr (.inr (.inr (.inr (.inr (.inl ⟨_, _, _, _, ‹_›, rfl⟩))))))
  case message id msg draws finished =>
    cases h
    exact .inr (.inr (.inr (.inr (.inr (.inr (.inr ⟨id, msg, draws, finished, rfl⟩))))))

/-- A schedule of steps from `m`, one after another: `none` as soon as one cannot be taken. -/
def Machine.exec (m : Machine C D) : List Action → Option (Machine C D)
  | [] => some m
  | a :: as => (m.step K ops dl a).bind fun m' => m'.exec as

/-- Where `daemon::run` starts the migration thread: the first configuration is installed, and its `new_config` has
set `m_have_new_config`. -/
def Machine.Init (m : Machine C D) : Prop :=
  m.d.haveNewConfig = true ∧ m.coord = .idle ∧ m.migrate = .waiting

/-- The machines some interleaving of steps reaches from `m₀`. -/
inductive Machine.Reachable (m₀ : Machine C D) : Machine C D → Prop where
  | init : Machine.Reachable m₀ m₀
  | step {m m' : Machine C D} (a : Action) : Machine.Reachable m₀ m → m.step K ops dl a = some m' →
      Machine.Reachable m₀ m'

/-- The machine a schedule ends in is reachable. -/
theorem Machine.Reachable.of_exec {m₀ m m' : Machine C D} (as : List Action) (hr : Machine.Reachable K ops dl m₀ m)
    (h : m.exec K ops dl as = some m') : Machine.Reachable K ops dl m₀ m' := by
  induction as generalizing m with
  | nil => exact Option.some.inj h ▸ hr
  | cons a as ih =>
    obtain ⟨m₁, h₁, h'⟩ := Option.bind_eq_some.1 h
    exact ih (.step a hr h₁) h'

end ConsusKvs

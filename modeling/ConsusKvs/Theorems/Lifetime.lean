import ConsusKvs.Theorems.Startup
import ConsusKvs.Theorems.Migrators
import ConsusKvs.Theorems.MigrationRounds

/-!
# The daemon `daemon::run` starts

The results about the migration thread assume where it starts: `Machine.Init`, an empty migrator map and no round
done. That start is the daemon `daemon::run` starts its threads on, whatever the system, the disk and the coordinator
answered before. So over every interleaving of `new_config` calls, messages and the migration thread's steps from
there, the daemon keeps the id it registered, no partition has two migrators (the map's keys carry that), every
completed round worked and terminated exactly the migrators it should, and every quiet daemon's last round did the work
of its configuration (`started_daemon_keeps_invariants`). No assumption on the start is left.
-/

namespace ConsusKvs

variable {C D Loc : Type} (K : Constants) (ops : ConfigOps C) (dl : DataLayer K D)

namespace LifetimeAux

/-- No step of the machine changes the daemon's id: `new_config` replaces only the data center, the migration thread
only the flag and the map, and no message changes the identity. -/
theorem step_id {m m' : Machine C D} {a : Action} (h : m.step K ops dl a = some m') : m'.d.us.id = m.d.us.id := by
  rcases Machine.step_cases K ops dl h with ⟨c, -, rfl⟩ | ⟨-, rfl⟩ | ⟨-, -, rfl⟩ | ⟨-, rfl⟩ | ⟨-, rfl⟩ |
    ⟨c, parts, finished, -, rfl⟩ | ⟨c, parts, calls, finished, -, rfl⟩ | ⟨id, msg, draws, finished, rfl⟩
  any_goals rfl
  exact congrArg Us.id (loop_frame K ops dl m.d id msg draws finished).1

/-- Every machine reachable from another has its daemon's id. -/
theorem reachable_id {m₀ m : Machine C D} (h : Machine.Reachable K ops dl m₀ m) : m.d.us.id = m₀.d.us.id := by
  induction h with
  | init => rfl
  | step a _ hs ih => exact (step_id K ops dl hs).trans ih

end LifetimeAux

open LifetimeAux StartupAux

/-- For every answer of the system, the disk and the coordinator on which `daemon::run` starts its threads, and every
interleaving of `new_config` calls, messages and the migration thread's steps from there: the daemon keeps the id it
registered, no partition ever has two migrators, every completed round of `do_work` worked only migrators of partitions
it read and terminated only migrators of partitions it did not read, and whenever the thread waits on a quiet daemon,
the last round read the installed configuration and did its work. -/
theorem started_daemon_keeps_invariants (env : Startup D Loc) (threads : Nat) (s : Daemon C D) (w : Wiring Loc)
    (h : runStart ops env threads = .started s w) (m : Machine C D)
    (hr : Machine.Reachable K ops dl s.startMachine m) :
    m.d.us.id = w.id ∧ m.d.migrations.keys.Nodup ∧
      (∀ r, m.lastRound = some r → ∀ q,
        (MigratorCall.work q ∈ r.calls → q ∈ r.parts) ∧ (MigratorCall.terminate q ∈ r.calls → q ∉ r.parts)) ∧
      (m.migrate = .waiting → m.Quiet → ∃ r, m.lastRound = some r ∧ RoundDone ops m r) := by
  obtain ⟨data, id, c, -, hw, -, rfl⟩ := runStart_boot ops h
  have hmap : (bootDaemon ops (Us.boot id) data c).startMachine.MapInv :=
    ⟨fun _ _ _ h => (nomatch h), fun _ h => (nomatch h)⟩
  have hm := hr.mapInv K ops dl hmap
  exact ⟨(reachable_id K ops dl hr).trans hw.symm, m.d.migrations.nodup, hm.exact,
    (hr.inv K ops dl ⟨rfl, rfl, rfl⟩).waiting⟩

/-- The daemon started on version `3` as server `5`, after one whole round of the migration thread. -/
theorem started_daemon_keeps_invariants_sample :
    let env : Startup Unit Unit :=
      ⟨true, true, true, some (), some (true, 5, (), "coordinator"), none, [packVersionId ⟨3⟩], true, true⟩
    let s : Daemon VersionId Unit := ⟨⟨⟨5⟩, ⟨0⟩⟩, ⟨3⟩, (), .empty, .empty, .empty, true⟩
    let w : Wiring Unit := ⟨.establish, ⟨5⟩, (), "coordinator", 4⟩
    let m : Machine VersionId Unit :=
      ⟨{ s with migrations := KeySet.empty.insert ⟨3⟩, haveNewConfig := false }, .idle, .waiting,
        some ⟨⟨3⟩, [⟨3⟩], [.work ⟨3⟩, .work ⟨3⟩]⟩⟩
    runStart ConfigOps.versionOnly env 4 = .started s w ∧
      Machine.Reachable Constants.sample ConfigOps.versionOnly (DataLayer.empty _) s.startMachine m ∧
      m.d.us.id = w.id ∧ m.d.migrations.keys.Nodup ∧
      (∀ r, m.lastRound = some r → ∀ q,
        (MigratorCall.work q ∈ r.calls → q ∈ r.parts) ∧ (MigratorCall.terminate q ∈ r.calls → q ∉ r.parts)) ∧
      (m.migrate = .waiting → m.Quiet → ∃ r, m.lastRound = some r ∧ RoundDone ConfigOps.versionOnly m r) := by
  intro env s w m
  have h : runStart ConfigOps.versionOnly env 4 = .started s w := rfl
  have hr : Machine.Reachable Constants.sample ConfigOps.versionOnly (DataLayer.empty _) s.startMachine m :=
    .of_exec Constants.sample ConfigOps.versionOnly (DataLayer.empty _) [.wake, .clear, .read, .create [], .sweep []]
      .init (by decide)
  exact ⟨h, hr,
    started_daemon_keeps_invariants Constants.sample ConfigOps.versionOnly (DataLayer.empty _) env 4 s w h m hr⟩

end ConsusKvs

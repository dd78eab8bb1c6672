import ConsusKvs.Lifecycle
import ConsusKvs.Instances

/-!
# Where `daemon::run` starts its threads

`daemon::run` starts its threads only on a daemon with a configuration: never when no blob the coordinator handed to
`new_config` during registration decodes. When it starts them, the daemon holds the last blob that decoded, with its
data center read from it, the data layer it opened, `m_have_new_config` set and no replicator or migrator
(`run_starts_on_last_config`). That is the start the migration rounds assume: `Machine.Init`, an empty migrator map
and no round done.
-/

namespace ConsusKvs

variable {C D Loc : Type} (ops : ConfigOps C)

namespace StartupAux

/-- The daemon after `new_config` has installed `c` on the identity `us` and the data layer `data`, with no thread
started yet. -/
def bootDaemon (us : Us) (data : D) (c : C) : Daemon C D :=
  ⟨{ us with dc := ops.getDataCenter c us.id }, c, data, .empty, .empty, .empty, true⟩

/-- `new_config` installs exactly the blobs `decodeConfig` decodes. -/
theorem newConfig_fst (s : Daemon C D) (blob : Bytes) :
    (newConfig ops s blob).1 = ((decodeConfig ops blob).map fun c => (s.publish ops c).signal).getD s := by
  unfold newConfig decodeConfig
  rcases ops.unpack blob with _ | ⟨c, _ | ⟨b, bs⟩⟩ <;> rfl

/-- One blob during registration: the daemon of the blob if it decodes, the daemon before it otherwise. -/
theorem bootConfig_map (us : Us) (data : D) (o : Option C) (blob : Bytes) :
    bootConfig ops us data (o.map (bootDaemon ops us data)) blob =
      ((decodeConfig ops blob).or o).map (bootDaemon ops us data) := by
  cases o <;> cases h : decodeConfig ops blob <;> simp only [bootConfig, newConfig_fst, h, Option.map_some',
    Option.map_none', Option.getD_some, Option.getD_none, Option.or_some, Option.none_or] <;> rfl

/-- The blobs of registration leave the daemon of the last one that decodes, or of the one before them. -/
theorem foldl_bootConfig (us : Us) (data : D) (blobs : List Bytes) (o : Option C) :
    blobs.foldl (bootConfig ops us data) (o.map (bootDaemon ops us data)) =
      ((blobs.filterMap (decodeConfig ops)).getLast?.or o).map (bootDaemon ops us data) := by
  induction blobs generalizing o with
  | nil => rfl
  | cons b bs ih =>
    rw [List.foldl_cons, bootConfig_map, ih]
    cases h : decodeConfig ops b
    · simp only [List.filterMap_cons, h, Option.none_or]
    · simp only [List.filterMap_cons, h]
      rw [← List.singleton_append, List.getLast?_append, Option.or_assoc]
      rfl

/-- A start that reaches the threads: every step succeeded, and registration installed a configuration. -/
theorem runStart_started {env : Startup D Loc} {threads : Nat} {s : Daemon C D} {w : Wiring Loc}
    (h : runStart ops env threads = .started s w) :
    ∃ data id, env.dataInit = some data ∧ w.id = ⟨id⟩ ∧
      env.coordinatorConfigs.foldl (bootConfig ops (Us.boot id) data) none = some s := by
  unfold runStart at h
  -- each step of the start either fails, which is not a start, or goes on
  split at h
  · cases h
  · split at h
    · split at h
      · cases h
      · split at h
        · cases h
        · split at h
          · cases h
          · split at h
            · cases h
            · cases h
              exact ⟨_, _, ‹_›, rfl, ‹_›⟩
    · cases h

/-- The daemon the threads start on is the last blob that decoded during registration, installed on the data layer
opened and the identity registered, with nothing else. -/
theorem runStart_boot {env : Startup D Loc} {threads : Nat} {s : Daemon C D} {w : Wiring Loc}
    (h : runStart ops env threads = .started s w) :
    ∃ data id c, env.dataInit = some data ∧ w.id = ⟨id⟩ ∧
      (env.coordinatorConfigs.filterMap (decodeConfig ops)).getLast? = some c ∧
      s = bootDaemon ops (Us.boot id) data c := by
  obtain ⟨data, id, hd, hw, hs⟩ := runStart_started ops h
  rw [← Option.map_none' (bootDaemon ops (Us.boot id) data), foldl_bootConfig, Option.or_none] at hs
  obtain ⟨c, hc, rfl⟩ := Option.map_eq_some'.1 hs
  exact ⟨data, id, c, hd, hw, hc, rfl⟩

end StartupAux

open StartupAux

/-- For every answer of the system, the disk and the coordinator: `daemon::run` never starts its threads when no blob
handed to `new_config` during registration decodes; and whenever it starts them, it starts them on the data layer it
opened, under the identity it registered, with the last configuration that decoded installed and its data center read
from it, no replicator and no migrator, and `m_have_new_config` set: the machine of the two threads starts as
`Machine.Init` says. -/
theorem run_starts_on_last_config (env : Startup D Loc) (threads : Nat) :
    (env.coordinatorConfigs.filterMap (decodeConfig ops) = [] → ∀ s w, runStart ops env threads ≠ .started s w) ∧
    ∀ s w, runStart ops env threads = .started s w →
      env.dataInit = some s.data ∧ s.us.id = w.id ∧
      (∃ c, (env.coordinatorConfigs.filterMap (decodeConfig ops)).getLast? = some c ∧ s.config = c ∧
        s.us.dc = ops.getDataCenter c s.us.id) ∧
      s.replRd.keys = [] ∧ s.replWr.keys = [] ∧ s.migrations.keys = [] ∧ s.startMachine.Init := by
  refine ⟨fun hnone s w h => ?_, fun s w h => ?_⟩
  · obtain ⟨_, _, _, -, -, hc, -⟩ := runStart_boot ops h
    rw [hnone] at hc
    cases hc
  · obtain ⟨data, id, c, hd, hw, hc, rfl⟩ := runStart_boot ops h
    exact ⟨hd, hw.symm, ⟨c, hc, rfl, rfl⟩, rfl, rfl, rfl, rfl, rfl, rfl⟩

/-- A saved identity `5`, and three blobs during registration: one too short, version `3`, and version `4` with a
byte left over. The threads start on version `3`. -/
theorem run_starts_on_last_config_sample :
    let env : Startup Unit Unit := ⟨true, true, true, some (), some (true, 5, (), "coordinator"), none,
      [[1, 2], packVersionId ⟨3⟩, packVersionId ⟨4⟩ ++ [0]], true, true⟩
    let s : Daemon VersionId Unit := ⟨⟨⟨5⟩, ⟨0⟩⟩, ⟨3⟩, (), .empty, .empty, .empty, true⟩
    let w : Wiring Unit := ⟨.establish, ⟨5⟩, (), "coordinator", 4⟩
    runStart ConfigOps.versionOnly env 4 = .started s w ∧
      env.dataInit = some s.data ∧ s.us.id = w.id ∧
      (∃ c, (env.coordinatorConfigs.filterMap (decodeConfig ConfigOps.versionOnly)).getLast? = some c ∧
        s.config = c ∧ s.us.dc = ConfigOps.versionOnly.getDataCenter c s.us.id) ∧
      s.replRd.keys = [] ∧ s.replWr.keys = [] ∧ s.migrations.keys = [] ∧ s.startMachine.Init := by
  intro env s w
  have h : runStart ConfigOps.versionOnly env 4 = .started s w := rfl
  exact ⟨h, (run_starts_on_last_config ConfigOps.versionOnly env 4).2 s w h⟩

end ConsusKvs

import ConsusKvs.Run
import ConsusKvs.Instances
import ConsusKvs.Theorems.Codecs

/-!
# Which configuration the daemon holds

`coordinator_callback::new_config` installs every blob that decodes with no error and nothing left over, and leaves the
daemon exactly as it was for any other blob (`newConfig_spec`). It never compares versions: a configuration older than
the installed one is installed like any other, after which a `KVS_MIGRATE_SYN` the daemon acknowledged before is refused
(`new_config_accepts_older_version`). What does hold is that the configuration after any run is the last blob of the run
that decoded, whatever the messages in between (`run_config`). So the daemon's versions are monotone exactly when the
coordinator's are, and under that assumption an acknowledgement, once sent, stays valid: every later
`KVS_MIGRATE_SYN` for the partition at a version up to the acknowledged one is acknowledged again
(`config_follows_coordinator`).

Between two daemons, a request for a version the responder has reached comes back to the requester's migrator with the
responder's version, and the requester releases the migrator (`migration_handshake`).
-/

namespace ConsusKvs

variable {C D : Type} (K : Constants) (ops : ConfigOps C) (dl : DataLayer K D)

/-! ## The configuration a run installs -/

/-- The configuration installed after an event, from the one installed before it: the blob's, when it decodes whole. -/
def Event.installs (c : C) : Event → C
  | .newConfig data =>
    match ops.unpack data with
    | some (c', []) => c'
    | _ => c
  | .message .. => c

/-- The configuration installed after a run: the last blob of the run that decoded whole, or the one before the run. -/
def installed (c : C) (es : List Event) : C := es.foldl (fun c e => e.installs ops c) c

/-- The coordinator's configurations come in non-decreasing version order: each blob that decodes whole has a version
at least that of the configuration installed when it arrives. -/
def versionsNonDecreasing (c : C) : List Event → Bool
  | [] => true
  | e :: es =>
    decide ((ops.version c).val ≤ (ops.version (e.installs ops c)).val) && versionsNonDecreasing (e.installs ops c) es

/-- `new_config` on one blob: a blob that decodes with no error and nothing left over is installed, whatever its
version (published, with the data center read from it, and the flag set), and `true` returned; any other blob leaves
the daemon exactly as it was, and `false` is returned. -/
theorem newConfig_spec (d : Daemon C D) (data : Bytes) :
    (∀ c, ops.unpack data = some (c, []) → newConfig ops d data = ((d.publish ops c).signal, true)) ∧
    ((∀ c, ops.unpack data ≠ some (c, [])) → newConfig ops d data = (d, false)) := by
  refine ⟨fun c h => by rw [newConfig, h], fun h => ?_⟩
  unfold newConfig
  split
  · exact absurd ‹_› (h _)
  · rfl

/-- One event leaves installed what `Event.installs` says: `new_config` publishes the blob it decodes, and no message
changes the configuration. -/
theorem step_config (s : Daemon C D) (e : Event) : (s.step K ops dl e).1.config = e.installs ops s.config := by
  cases e with
  | newConfig data =>
    simp only [Daemon.step, newConfig, Event.installs]
    rcases ops.unpack data with _ | ⟨c, _ | ⟨b, bs⟩⟩ <;> rfl
  | message id msg draws finished => exact (loop_frame K ops dl s id msg draws finished).2.1

/-- The configuration after a run is the last blob of the run that decoded whole; the versions of the blobs play no
part. -/
theorem run_config (s : Daemon C D) (es : List Event) : (s.run K ops dl es).1.config = installed ops s.config es := by
  induction es generalizing s with
  | nil => rfl
  | cons e es ih => rw [Daemon.run_cons_fst, ih, step_config]; rfl

theorem version_le_installed {c : C} {es : List Event} (h : versionsNonDecreasing ops c es = true) :
    (ops.version c).val ≤ (ops.version (installed ops c es)).val := by
  induction es generalizing c with
  | nil => exact UInt64.le_refl _
  | cons e es ih =>
    simp only [versionsNonDecreasing, Bool.and_eq_true, decide_eq_true_eq] at h
    exact UInt64.le_trans h.1 (ih h.2)

/-! ## Acknowledging a `KVS_MIGRATE_SYN` -/

/-- A `KVS_MIGRATE_SYN` that unpacks is acknowledged, with the installed version, exactly when the version it asks for
is at most that one. -/
theorem loop_migrateSyn {s : Daemon C D} {id : CommId} {msg : Buffer} {draws : List UInt64} {finished : Bool}
    {up rest : Bytes} {p : PartitionId} {u : VersionId} (hsyn : dispatch K msg = some (some .kvsMigrateSyn, up))
    (hup : unpackMigrate up = some ((p, u), rest)) :
    loop K ops dl s id msg draws finished =
      if u.val ≤ (ops.version s.config).val then (s, [.send id (migrateAck K msg p (ops.version s.config))])
      else (s, []) := by
  simp only [loop, hsyn]
  exact processMigrateSyn_eq K ops hup

/-- The version an acknowledgement carries can be read back from it. -/
theorem migrateAck_inj {msg : Buffer} {up rest : Bytes} {p : PartitionId} {u w w' : VersionId}
    (hsyn : dispatch K msg = some (some .kvsMigrateSyn, up)) (hup : unpackMigrate up = some ((p, u), rest))
    (h : migrateAck K msg p w = migrateAck K msg p w') : w = w' := by
  obtain ⟨up₁, hd₁, hu₁⟩ := migrateAck_unpacks K msg up rest p u w hsyn hup
  obtain ⟨up₂, hd₂, hu₂⟩ := migrateAck_unpacks K msg up rest p u w' hsyn hup
  rw [h, hd₂, Option.some.injEq, Prod.mk.injEq] at hd₁
  obtain ⟨-, rfl⟩ := hd₁
  rw [hu₁, Option.some.injEq, Prod.mk.injEq, Prod.mk.injEq] at hu₂
  exact hu₂.1.2

/-- An acknowledgement carries the installed version, and answers a request for at most that version; the daemon is
left as it was. -/
theorem ack_of_loop {s : Daemon C D} {id : CommId} {msg : Buffer} {draws : List UInt64} {finished : Bool}
    {up rest : Bytes} {p : PartitionId} {u w : VersionId} (hsyn : dispatch K msg = some (some .kvsMigrateSyn, up))
    (hup : unpackMigrate up = some ((p, u), rest))
    (hack : (loop K ops dl s id msg draws finished).2 = [.send id (migrateAck K msg p w)]) :
    w = ops.version s.config ∧ u.val ≤ w.val ∧ (loop K ops dl s id msg draws finished).1 = s := by
  rw [loop_migrateSyn K ops dl hsyn hup] at hack ⊢
  split_ifs at hack ⊢ with hu
  have hw := migrateAck_inj K hsyn hup (Effect.send.inj (List.cons.inj hack).1).2
  exact ⟨hw.symm, hw ▸ hu, rfl⟩

/-- The migration handshake between two daemons. A `KVS_MIGRATE_SYN` for partition `p` at version `v`, sent to a
daemon whose installed version is at least `v`, is answered with one `KVS_MIGRATE_ACK` carrying that installed version,
which the sender's loop hands to its migrator of `p`, if it has one, and then releases; sent to a daemon with an older
configuration, it is not answered. The responder does not change. -/
theorem migration_handshake (responder sender : Daemon C D) (idSender idResponder : CommId) (msg : Buffer)
    (draws draws' : List UInt64) (finished finished' : Bool) (up rest : Bytes) (p : PartitionId) (v : VersionId)
    (hsyn : dispatch K msg = some (some .kvsMigrateSyn, up)) (hup : unpackMigrate up = some ((p, v), rest)) :
    (v.val ≤ (ops.version responder.config).val →
      ∃ ack, loop K ops dl responder idSender msg draws finished = (responder, [.send idSender ack]) ∧
        loop K ops dl sender idResponder ack draws' finished' =
          if p ∈ sender.migrations.keys then
            ({ sender with migrations := sender.migrations.release p finished' },
              [.migratorAck p (ops.version responder.config)])
          else (sender, [])) ∧
    (¬v.val ≤ (ops.version responder.config).val →
      loop K ops dl responder idSender msg draws finished = (responder, [])) := by
  rw [loop_migrateSyn K ops dl hsyn hup]
  refine ⟨fun hv => ?_, fun hv => if_neg hv⟩
  rw [if_pos hv]
  exact ⟨_, rfl, migrateAck_received K ops dl msg up rest p v _ hsyn hup sender idResponder draws' finished'⟩

/-- A request at version `4` to a daemon at version `5`, from a daemon whose migrator of partition `0` finishes with the
acknowledgement. -/
theorem migration_handshake_sample :
    ((4 : UInt64) ≤ (ConfigOps.versionOnly.version (Daemon.sample ⟨5⟩).config).val →
      ∃ ack, loop Constants.sample ConfigOps.versionOnly (DataLayer.empty _) (Daemon.sample ⟨5⟩) ⟨2⟩
          (Constants.sampleRequest .kvsMigrateSyn (migratePayload ⟨0⟩ ⟨4⟩)) [] false =
          (Daemon.sample ⟨5⟩, [.send ⟨2⟩ ack]) ∧
        loop Constants.sample ConfigOps.versionOnly (DataLayer.empty _)
            { Daemon.sample ⟨4⟩ with migrations := KeySet.empty.insert ⟨0⟩ } ⟨1⟩ ack [] true =
          if (⟨0⟩ : PartitionId) ∈ (KeySet.empty.insert ⟨0⟩).keys then
            ({ Daemon.sample ⟨4⟩ with migrations := (KeySet.empty.insert ⟨0⟩).release ⟨0⟩ true },
              [.migratorAck ⟨0⟩ (ConfigOps.versionOnly.version (Daemon.sample ⟨5⟩).config)])
          else ({ Daemon.sample ⟨4⟩ with migrations := KeySet.empty.insert ⟨0⟩ }, [])) ∧
    (¬(4 : UInt64) ≤ (ConfigOps.versionOnly.version (Daemon.sample ⟨5⟩).config).val →
      loop Constants.sample ConfigOps.versionOnly (DataLayer.empty _) (Daemon.sample ⟨5⟩) ⟨2⟩
        (Constants.sampleRequest .kvsMigrateSyn (migratePayload ⟨0⟩ ⟨4⟩)) [] false = (Daemon.sample ⟨5⟩, [])) :=
  migration_handshake Constants.sample ConfigOps.versionOnly (DataLayer.empty _) (Daemon.sample ⟨5⟩)
    { Daemon.sample ⟨4⟩ with migrations := KeySet.empty.insert ⟨0⟩ } ⟨2⟩ ⟨1⟩
    (Constants.sampleRequest .kvsMigrateSyn (migratePayload ⟨0⟩ ⟨4⟩)) [] [] false true (migratePayload ⟨0⟩ ⟨4⟩) []
    ⟨0⟩ ⟨4⟩ (dispatch_create_packAt Constants.sample _ _ _) (by decide)

/-- A daemon at version `5` acknowledges a request for partition `0` at version `5`; the coordinator then sends version
`3`, which is installed; the daemon then refuses a request for the same partition at version `4`. -/
theorem new_config_accepts_older_version :
    (Daemon.sample ⟨5⟩).run Constants.sample ConfigOps.versionOnly (DataLayer.empty _)
        [.message ⟨2⟩ (Constants.sampleRequest .kvsMigrateSyn (migratePayload ⟨0⟩ ⟨5⟩)) [] false,
          .newConfig (packVersionId ⟨3⟩),
          .message ⟨2⟩ (Constants.sampleRequest .kvsMigrateSyn (migratePayload ⟨0⟩ ⟨4⟩)) [] false] =
      ({ Daemon.sample ⟨3⟩ with haveNewConfig := true },
        [.send ⟨2⟩ (migrateAck Constants.sample (Constants.sampleRequest .kvsMigrateSyn (migratePayload ⟨0⟩ ⟨5⟩)) ⟨0⟩
          ⟨5⟩)]) := by
  decide

/-- `new_config` installs every blob that decodes whole and leaves the daemon as it was for any other; over every run
from every daemon, the configuration it ends with is the last blob of the run that decoded, whatever the versions.
After a daemon has acknowledged a `KVS_MIGRATE_SYN` for partition `p` with the version `w`, `w` is the version that was
installed when the acknowledgement was sent; and over any later run whose decodable configurations come in
non-decreasing version order, `w` is at most the final version, and every `KVS_MIGRATE_SYN` for `p` at a version up to
`w` is then acknowledged with the final version. -/
theorem config_follows_coordinator (s : Daemon C D) (id : CommId) (msg : Buffer) (draws : List UInt64)
    (finished : Bool) (up rest : Bytes) (p : PartitionId) (u w : VersionId)
    (hsyn : dispatch K msg = some (some .kvsMigrateSyn, up)) (hup : unpackMigrate up = some ((p, u), rest))
    (hack : (loop K ops dl s id msg draws finished).2 = [.send id (migrateAck K msg p w)]) :
    (∀ (d : Daemon C D) (data : Bytes),
      (∀ c, ops.unpack data = some (c, []) → newConfig ops d data = ((d.publish ops c).signal, true)) ∧
      ((∀ c, ops.unpack data ≠ some (c, [])) → newConfig ops d data = (d, false))) ∧
    (∀ (d : Daemon C D) (es : List Event), (d.run K ops dl es).1.config = installed ops d.config es) ∧
    w = ops.version s.config ∧
    ∀ es : List Event, versionsNonDecreasing ops s.config es = true →
      w.val ≤ (ops.version ((loop K ops dl s id msg draws finished).1.run K ops dl es).1.config).val ∧
      ∀ (id' : CommId) (msg' : Buffer) (draws' : List UInt64) (finished' : Bool) (up' rest' : Bytes) (v : VersionId),
        dispatch K msg' = some (some .kvsMigrateSyn, up') → unpackMigrate up' = some ((p, v), rest') →
        v.val ≤ w.val →
        loop K ops dl ((loop K ops dl s id msg draws finished).1.run K ops dl es).1 id' msg' draws' finished' =
          (((loop K ops dl s id msg draws finished).1.run K ops dl es).1,
            [.send id' (migrateAck K msg' p
              (ops.version ((loop K ops dl s id msg draws finished).1.run K ops dl es).1.config))]) := by
  obtain ⟨hw, -, hs⟩ := ack_of_loop K ops dl hsyn hup hack
  refine ⟨newConfig_spec ops, run_config K ops dl, hw, fun es hmono => ?_⟩
  rw [hs, run_config]
  have hle : w.val ≤ (ops.version (installed ops s.config es)).val := hw ▸ version_le_installed ops hmono
  refine ⟨hle, fun id' msg' draws' finished' up' rest' v hsyn' hup' hv => ?_⟩
  rw [loop_migrateSyn K ops dl hsyn' hup', run_config, if_pos (UInt64.le_trans hv hle)]

/-- The daemon of `new_config_accepts_older_version`, which acknowledges a request at version `5` with version `5`;
over every later run in which the coordinator's versions do not go down, requests up to version `5` stay
acknowledged. -/
theorem config_follows_coordinator_sample :
    let s := Daemon.sample ⟨5⟩
    let syn := Constants.sampleRequest .kvsMigrateSyn (migratePayload ⟨0⟩ ⟨5⟩)
    let s₁ := (loop Constants.sample ConfigOps.versionOnly (DataLayer.empty _) s ⟨2⟩ syn [] false).1
    (∀ (d : Daemon VersionId Unit) (data : Bytes),
      (∀ c, ConfigOps.versionOnly.unpack data = some (c, []) →
        newConfig ConfigOps.versionOnly d data = ((d.publish ConfigOps.versionOnly c).signal, true)) ∧
      ((∀ c, ConfigOps.versionOnly.unpack data ≠ some (c, [])) →
        newConfig ConfigOps.versionOnly d data = (d, false))) ∧
    (∀ (d : Daemon VersionId Unit) (es : List Event),
      (d.run Constants.sample ConfigOps.versionOnly (DataLayer.empty _) es).1.config =
        installed ConfigOps.versionOnly d.config es) ∧
    (⟨5⟩ : VersionId) = ConfigOps.versionOnly.version s.config ∧
    ∀ es : List Event, versionsNonDecreasing ConfigOps.versionOnly s.config es = true →
      (5 : UInt64) ≤ (ConfigOps.versionOnly.version
        (s₁.run Constants.sample ConfigOps.versionOnly (DataLayer.empty _) es).1.config).val ∧
      ∀ (id' : CommId) (msg' : Buffer) (draws' : List UInt64) (finished' : Bool) (up' rest' : Bytes) (v : VersionId),
        dispatch Constants.sample msg' = some (some .kvsMigrateSyn, up') →
        unpackMigrate up' = some ((⟨0⟩, v), rest') → v.val ≤ 5 →
        loop Constants.sample ConfigOps.versionOnly (DataLayer.empty _)
            (s₁.run Constants.sample ConfigOps.versionOnly (DataLayer.empty _) es).1 id' msg' draws' finished' =
          ((s₁.run Constants.sample ConfigOps.versionOnly (DataLayer.empty _) es).1,
            [.send id' (migrateAck Constants.sample msg' ⟨0⟩ (ConfigOps.versionOnly.version
              (s₁.run Constants.sample ConfigOps.versionOnly (DataLayer.empty _) es).1.config))]) :=
  config_follows_coordinator Constants.sample ConfigOps.versionOnly (DataLayer.empty _) (Daemon.sample ⟨5⟩) ⟨2⟩
    (Constants.sampleRequest .kvsMigrateSyn (migratePayload ⟨0⟩ ⟨5⟩)) [] false (migratePayload ⟨0⟩ ⟨5⟩) [] ⟨0⟩ ⟨5⟩ ⟨5⟩
    (by decide) (by decide) (by decide)

end ConsusKvs

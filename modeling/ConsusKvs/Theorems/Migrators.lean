import ConsusKvs.Migration
import ConsusKvs.Handlers
import ConsusKvs.Instances

/-!
# The migrator map and the calls of a round

`do_work`'s first loop works the migrator of each partition it read; its second loop works each migrator of the map
whose partition it read, and terminates every other. So every completed round worked only migrators of partitions it
read, and terminated only migrators of partitions it did not read, whatever the map held (`MigratorAux.round_exact`).

The invariant `Machine.MapInv` follows the steps through `Machine.step_cases`; it speaks of the thread and its rounds
only, so messages, which change the map at most by a release, keep it.
-/

namespace ConsusKvs

variable {C D : Type} (K : Constants) (ops : ConfigOps C) (dl : DataLayer K D)

/-- A round that worked only migrators of partitions it read, and terminated only migrators of partitions it did not
read. -/
def Round.Exact (r : Round C) : Prop :=
  ∀ q, (MigratorCall.work q ∈ r.calls → q ∈ r.parts) ∧ (MigratorCall.terminate q ∈ r.calls → q ∉ r.parts)

/-- What every step keeps of the calls into the migrator map. -/
structure Machine.MapInv (m : Machine C D) : Prop where
  /-- After the first loop, its calls are one `work` per partition read, in order. -/
  created : ∀ c parts calls, m.migrate = .created c parts calls → calls = parts.map .work
  /-- The last completed round was exact. -/
  exact : ∀ r, m.lastRound = some r → r.Exact

namespace MigratorAux

/-- A round whose first loop worked each partition read, followed by the second loop over any map, is exact. -/
theorem round_exact (c : C) (parts ms : List PartitionId) :
    (⟨c, parts, parts.map .work ++ ms.map fun m => if m ∈ parts then .work m else .terminate m⟩ : Round C).Exact := by
  intro q
  simp only [List.mem_append, List.mem_map]
  constructor
  · rintro (⟨p, hp, hpq⟩ | ⟨m, -, hm⟩)
    · cases hpq
      exact hp
    · split_ifs at hm with hmp
      cases hm
      exact hmp
  · rintro (⟨p, -, hpq⟩ | ⟨m, -, hm⟩)
    · cases hpq
    · split_ifs at hm with hmp
      cases hm
      exact hmp

end MigratorAux

open MigratorAux

/-- Every step keeps the invariant. -/
theorem Machine.MapInv.step {m m' : Machine C D} {a : Action} (hi : m.MapInv) (h : m.step K ops dl a = some m') :
    m'.MapInv := by
  rcases Machine.step_cases K ops dl h with ⟨c, -, rfl⟩ | ⟨-, rfl⟩ | ⟨-, -, rfl⟩ | ⟨-, rfl⟩ | ⟨-, rfl⟩ |
    ⟨c, parts, finished, -, rfl⟩ | ⟨c, parts, calls, finished, hm, rfl⟩ | ⟨id, msg, draws, finished, rfl⟩
  -- `publish`, `signal` and messages leave the thread as it was
  · exact ⟨hi.created, hi.exact⟩
  · exact ⟨hi.created, hi.exact⟩
  -- `wake`, `clear` and `read` leave the thread outside the first loop
  · exact ⟨fun _ _ _ h => (nomatch h), hi.exact⟩
  · exact ⟨fun _ _ _ h => (nomatch h), hi.exact⟩
  · exact ⟨fun _ _ _ h => (nomatch h), hi.exact⟩
  -- `create`: one `work` per partition read
  · exact ⟨fun _ _ _ h => by cases h; rfl, hi.exact⟩
  -- `sweep`: the round completes, with the second loop over the map
  · refine ⟨fun _ _ _ h => (nomatch h), fun r hr => ?_⟩
    cases hr
    rw [hi.created c parts calls hm]
    exact round_exact c parts m.d.migrations.keys
  · exact ⟨hi.created, hi.exact⟩

/-- Every machine reachable from one with the invariant has it. -/
theorem Machine.Reachable.mapInv {m₀ m : Machine C D} (h₀ : m₀.MapInv) (h : Machine.Reachable K ops dl m₀ m) :
    m.MapInv := by
  induction h with
  | init => exact h₀
  | step a _ hs ih => exact ih.step K ops dl hs

end ConsusKvs

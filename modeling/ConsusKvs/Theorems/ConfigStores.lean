import ConsusKvs.ConfigStores
import ConsusKvs.Handlers
import ConsusKvs.Instances

/-!
# A raw handler overlapping `new_config`

Every interleaving of `new_config`'s two stores with a raw handler's load and finish ends in one of three outcomes,
and each is reached (`raw_handler_overlap_outcomes`): the handler before `new_config`, `new_config` before the handler,
or the handler with the configuration it loaded before `m_config` was stored and the data center stored before it
asked for the owners. That third outcome is none of the atomic model's: the owners come from the old configuration
asked about the new data center. When `new_config` leaves this server's data center as it was, the third outcome is
the first, and every interleaving is one of the two orders Run.lean takes (`raw_handler_overlap_atomic`).

The invariant `Overlap.Possible` says, for each pair of places of the two threads, what the daemon and the handler's
effects can be; every step keeps it (`OverlapAux.possible_step`), and so every schedule does.
-/

namespace ConsusKvs

variable {C D : Type} (K : Constants) (ops : ConfigOps C) (dl : DataLayer K D)

/-- A handler that reads `m_config` only through the configuration it loaded, and leaves `m_us` alone: a configuration
stored before it runs might as well be stored after. -/
structure LoadsConfigOnce (h : Daemon C D → C → Daemon C D × List (Effect K)) : Prop where
  storeConfig : ∀ s c c', h (s.storeConfig c') c = ((h s c).1.storeConfig c', (h s c).2)
  us : ∀ s c, (h s c).1.us = s.us

theorem processRawRdFrom_loadsConfigOnce (id : CommId) (up : Bytes) :
    LoadsConfigOnce K (processRawRdFrom K ops dl · · id up) := by
  refine ⟨fun s c c' => ?_, fun s c => ?_⟩ <;> unfold processRawRdFrom <;> split <;>
    first | rfl | (dsimp only; split_ifs <;> rfl)

theorem processRawWrFrom_loadsConfigOnce (id : CommId) (up : Bytes) :
    LoadsConfigOnce K (processRawWrFrom K ops dl · · id up) := by
  refine ⟨fun s c c' => ?_, fun s c => ?_⟩ <;> unfold processRawWrFrom <;> split <;>
    first | rfl | (dsimp only; split_ifs <;> rfl)

variable {K}

/-! ## The outcomes -/

/-- The handler, then `new_config`: the atomic model with the message first. -/
def Overlap.handlerFirst (h : Daemon C D → C → Daemon C D × List (Effect K)) (s : Daemon C D) (c : C) :
    Daemon C D × List (Effect K) :=
  ((h s s.config).1.publish ops c, (h s s.config).2)

/-- `new_config`, then the handler: the atomic model with the configuration first. -/
def Overlap.configFirst (h : Daemon C D → C → Daemon C D × List (Effect K)) (s : Daemon C D) (c : C) :
    Daemon C D × List (Effect K) :=
  h (s.publish ops c) c

/-- The handler loaded the configuration before `m_config` was stored, and asked for the owners after `m_us.dc` was. -/
def Overlap.mixed (h : Daemon C D → C → Daemon C D × List (Effect K)) (s : Daemon C D) (c : C) :
    Daemon C D × List (Effect K) :=
  ((h (s.storeDc ops c) s.config).1.storeConfig c, (h (s.storeDc ops c) s.config).2)

/-- What the daemon and the handler's effects can be at each pair of places, for the daemon `s` both threads started
on and the configuration `c` being installed. -/
def Overlap.Possible (h : Daemon C D → C → Daemon C D × List (Effect K)) (s : Daemon C D) (c : C)
    (x : Overlap K C D) : Prop :=
  match x.store, x.handler with
  | .before, .before => x.d = s
  | .dcStored, .before => x.d = s.storeDc ops c
  | .after, .before => x.d = s.publish ops c
  | .before, .loaded c' => x.d = s ∧ c' = s.config
  | .dcStored, .loaded c' => x.d = s.storeDc ops c ∧ c' = s.config
  | .after, .loaded c' => x.d = s.publish ops c ∧ (c' = s.config ∨ c' = c)
  | .before, .after => (x.d, x.effects) = h s s.config
  | .dcStored, .after =>
    (x.d, x.effects) = ((h s s.config).1.storeDc ops c, (h s s.config).2) ∨
      (x.d, x.effects) = h (s.storeDc ops c) s.config
  | .after, .after =>
    (x.d, x.effects) = Overlap.handlerFirst ops h s c ∨ (x.d, x.effects) = Overlap.configFirst ops h s c ∨
      (x.d, x.effects) = Overlap.mixed ops h s c

namespace OverlapAux

variable {ops} {h : Daemon C D → C → Daemon C D × List (Effect K)} {s : Daemon C D} {c : C}

/-- Every step keeps what is possible. -/
theorem possible_step (hh : LoadsConfigOnce K h) {x y : Overlap K C D} {t : Mover} (hx : x.Possible ops h s c)
    (hs : x.step ops c h t = some y) : y.Possible ops h s c := by
  obtain ⟨d, store, handler, effects⟩ := x
  cases t <;> cases store <;> cases handler <;>
    simp only [Overlap.step, Option.some.injEq, reduceCtorEq] at hs <;> subst hs <;>
    simp only [Overlap.Possible, Prod.mk.eta] at hx ⊢
  -- the coordinator stores `m_us.dc`, then `m_config`
  · exact congrArg (Daemon.storeDc ops · c) hx
  · exact ⟨congrArg (Daemon.storeDc ops · c) hx.1, hx.2⟩
  · obtain ⟨rfl, rfl⟩ := Prod.ext_iff.1 hx
    exact .inl rfl
  · exact congrArg (Daemon.storeConfig · c) hx
  · exact ⟨congrArg (Daemon.storeConfig · c) hx.1, .inl hx.2⟩
  · rcases hx with hx | hx <;> obtain ⟨rfl, rfl⟩ := Prod.ext_iff.1 hx
    exacts [.inl rfl, .inr (.inr rfl)]
  -- the handler loads `m_config`, then finishes with what it loaded
  · exact ⟨hx, by rw [hx]⟩
  · obtain ⟨rfl, rfl⟩ := hx
    rfl
  · exact ⟨hx, by rw [hx]; rfl⟩
  · obtain ⟨rfl, rfl⟩ := hx
    exact .inr rfl
  · exact ⟨hx, .inr (by rw [hx]; rfl)⟩
  · obtain ⟨rfl, rfl | rfl⟩ := hx
    · exact .inr (.inr (by rw [← Daemon.storeDc_storeConfig, hh.storeConfig]; rfl))
    · exact .inr (.inl rfl)

/-- Every schedule keeps what is possible. -/
theorem possible_exec (hh : LoadsConfigOnce K h) {x y : Overlap K C D} {sch : List Mover}
    (hx : x.Possible ops h s c) (he : x.exec ops c h sch = some y) : y.Possible ops h s c := by
  induction sch generalizing x with
  | nil =>
    cases he
    exact hx
  | cons t ts ih =>
    obtain ⟨z, hz, he⟩ := Option.bind_eq_some.1 he
    exact ih (possible_step hh hx hz) he

/-- A schedule that finishes both threads ends in one of the three outcomes. -/
theorem outcome_of_exec (hh : LoadsConfigOnce K h) {sch : List Mover} {x : Overlap K C D}
    (he : (Overlap.start s).exec ops c h sch = some x) (hs : x.store = .after) (hd : x.handler = .after) :
    (x.d, x.effects) = Overlap.handlerFirst ops h s c ∨ (x.d, x.effects) = Overlap.configFirst ops h s c ∨
      (x.d, x.effects) = Overlap.mixed ops h s c := by
  have h₀ : (Overlap.start s).Possible ops h s c := rfl
  have hp := possible_exec hh h₀ he
  obtain ⟨d, store, handler, effects⟩ := x
  cases hs
  cases hd
  exact hp

/-- A store of `m_us.dc` that keeps it changes nothing. -/
theorem storeDc_of_kept {d : Daemon C D} (hdc : ops.getDataCenter c d.us.id = d.us.dc) : d.storeDc ops c = d := by
  unfold Daemon.storeDc
  rw [hdc]

/-- When the data center is kept, the mixed outcome is the handler's before `new_config`. -/
theorem mixed_of_kept (hh : LoadsConfigOnce K h) (hdc : ops.getDataCenter c s.us.id = s.us.dc) :
    Overlap.mixed ops h s c = Overlap.handlerFirst ops h s c := by
  have hr : (h s s.config).1.storeDc ops c = (h s s.config).1 := storeDc_of_kept (by rw [hh.us]; exact hdc)
  rw [Overlap.mixed, Overlap.handlerFirst, storeDc_of_kept hdc, ← Daemon.storeDc_storeConfig, hr]

theorem loadsConfigOnce_of_raw {id : CommId} {up : Bytes}
    (hh : h = (processRawRdFrom K ops dl · · id up) ∨ h = (processRawWrFrom K ops dl · · id up)) :
    LoadsConfigOnce K h := by
  rcases hh with rfl | rfl
  exacts [processRawRdFrom_loadsConfigOnce K ops dl id up, processRawWrFrom_loadsConfigOnce K ops dl id up]

end OverlapAux

open OverlapAux

/-! ## A raw handler and `new_config` -/

/-- For every daemon, every configuration `new_config` installs and every raw read or write: the outcomes of the
schedules of `new_config`'s two stores and the handler's load and finish that finish both are exactly three. The
handler before `new_config`; `new_config` before the handler; or the handler with the configuration it loaded before
`m_config` was stored, asking it for the owners of the data center stored before it asked. -/
theorem raw_handler_overlap_outcomes (s : Daemon C D) (c : C) (id : CommId) (up : Bytes)
    (h : Daemon C D → C → Daemon C D × List (Effect K))
    (hh : h = (processRawRdFrom K ops dl · · id up) ∨ h = (processRawWrFrom K ops dl · · id up))
    (o : Daemon C D × List (Effect K)) :
    (∃ sch x, (Overlap.start s).exec ops c h sch = some x ∧ x.store = .after ∧ x.handler = .after ∧
        (x.d, x.effects) = o) ↔
      o = Overlap.handlerFirst ops h s c ∨ o = Overlap.configFirst ops h s c ∨ o = Overlap.mixed ops h s c := by
  constructor
  · rintro ⟨sch, x, he, hs, hd, rfl⟩
    exact outcome_of_exec (loadsConfigOnce_of_raw dl hh) he hs hd
  · rintro (rfl | rfl | rfl)
    · exact ⟨[.network, .network, .coordinator, .coordinator], _, rfl, rfl, rfl, rfl⟩
    · exact ⟨[.coordinator, .coordinator, .network, .network], _, rfl, rfl, rfl, rfl⟩
    · exact ⟨[.network, .coordinator, .network, .coordinator], _, rfl, rfl, rfl, rfl⟩

/-- A raw read of server `1` at version `1` in data center `1`, overlapping the installation of version `2`, which
moves the server to data center `2`: the mixed outcome is reached, and it answers with an owner that neither order of
the atomic model gives. -/
theorem raw_handler_overlap_outcomes_sample :
    let s : Daemon VersionId Unit := ⟨⟨⟨1⟩, ⟨1⟩⟩, ⟨1⟩, (), .empty, .empty, .empty, false⟩
    let h := (processRawRdFrom Constants.sample ConfigOps.byDataCenter (DataLayer.empty _) · · ⟨2⟩
      (rdPayload 7 [] [] 4))
    let o := Overlap.mixed ConfigOps.byDataCenter h s ⟨2⟩
    (∃ sch x, (Overlap.start s).exec ConfigOps.byDataCenter ⟨2⟩ h sch = some x ∧ x.store = .after ∧
        x.handler = .after ∧ (x.d, x.effects) = o) ∧
      o.2 ≠ (Overlap.handlerFirst ConfigOps.byDataCenter h s ⟨2⟩).2 ∧
      o.2 ≠ (Overlap.configFirst ConfigOps.byDataCenter h s ⟨2⟩).2 := by
  intro s h o
  exact ⟨(raw_handler_overlap_outcomes ConfigOps.byDataCenter (DataLayer.empty _) s ⟨2⟩ ⟨2⟩
    (rdPayload 7 [] [] 4) h (.inl rfl) o).2 (.inr (.inr rfl)), by decide, by decide⟩

/-- For every daemon, every configuration that leaves this server's data center as it was and every raw read or write:
every schedule of `new_config`'s two stores and the handler's load and finish that finishes both ends as one of the
two orders of the atomic model, the handler before `new_config` or after it. -/
theorem raw_handler_overlap_atomic (s : Daemon C D) (c : C) (id : CommId) (up : Bytes)
    (h : Daemon C D → C → Daemon C D × List (Effect K))
    (hh : h = (processRawRdFrom K ops dl · · id up) ∨ h = (processRawWrFrom K ops dl · · id up))
    (hdc : ops.getDataCenter c s.us.id = s.us.dc) (sch : List Mover) (x : Overlap K C D)
    (he : (Overlap.start s).exec ops c h sch = some x) (hs : x.store = .after) (hd : x.handler = .after) :
    (x.d, x.effects) = Overlap.handlerFirst ops h s c ∨ (x.d, x.effects) = Overlap.configFirst ops h s c := by
  have hl := loadsConfigOnce_of_raw dl hh
  rcases outcome_of_exec hl he hs hd with h₁ | h₂ | h₃
  · exact .inl h₁
  · exact .inr h₂
  · exact .inl (h₃.trans (mixed_of_kept hl hdc))

/-- A raw write on a daemon of data center `0` overlapping the installation of version `2`, which keeps it there: the
schedule that loads the old configuration and stores the new one before the write finishes ends as an atomic order. -/
theorem raw_handler_overlap_atomic_sample :
    let s := Daemon.sample ⟨1⟩
    let h := (processRawWrFrom Constants.sample ConfigOps.versionOnly (DataLayer.empty _) · · ⟨2⟩
      (wrPayload 7 0 [] [] 4 [5]))
    ∃ x, (Overlap.start s).exec ConfigOps.versionOnly ⟨2⟩ h [.network, .coordinator, .network, .coordinator] =
        some x ∧ ((x.d, x.effects) = Overlap.handlerFirst ConfigOps.versionOnly h s ⟨2⟩ ∨
          (x.d, x.effects) = Overlap.configFirst ConfigOps.versionOnly h s ⟨2⟩) := by
  intro s h
  exact ⟨_, rfl, raw_handler_overlap_atomic ConfigOps.versionOnly (DataLayer.empty _) s ⟨2⟩ ⟨2⟩
    (wrPayload 7 0 [] [] 4 [5]) h (.inr rfl) rfl [.network, .coordinator, .network, .coordinator] _ rfl rfl rfl⟩

end ConsusKvs

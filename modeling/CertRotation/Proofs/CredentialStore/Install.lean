/-
# `Proofs.CredentialStore.Install` — what one operation does to a store

Every operation comes down to `install`: a load is an identity, or an error, followed by
`install`.  So each field of the store is described once, for `install`, and the operations
are described by `attempt_eq`.
-/
import CertRotation.CredentialStore.Operation

namespace CertRotation.CredentialStore

/-! ## Installing an identity -/

section
variable (s : CredentialStore) (i : Identity)

theorem hasChain_eq : s.hasChain i = !changesChain s.current i := by
  simp [hasChain, changesChain]

/-- An install in one line: the identity, and one more generation if the chain is another. -/
theorem install_eq :
    (s.install i).1 =
      { s with
        current := some i
        generation := s.generation + if changesChain s.current i then 1 else 0 } := by
  unfold install
  rw [hasChain_eq]
  cases changesChain s.current i <;> rfl

@[simp] theorem install_current : (s.install i).1.current = some i := by
  unfold install; split <;> rfl

@[simp] theorem install_paths : (s.install i).1.paths = s.paths := by
  unfold install; split <;> rfl

theorem install_generation :
    (s.install i).1.generation = s.generation + if changesChain s.current i then 1 else 0 := by
  unfold install
  rw [hasChain_eq]
  cases changesChain s.current i <;> rfl

theorem install_event :
    (s.install i).2 =
      if changesChain s.current i then .loadedCertificate i.description?
      else .certificateUnchanged := by
  unfold install
  rw [hasChain_eq]
  cases changesChain s.current i <;> rfl

end

/-! ## Operations -/

/-- A load from two files is the identity of the files, installed. -/
theorem load_eq (s : CredentialStore) (files : FileTree) (cert key : String) :
    s.load files cert key = (Identity.load files cert key).map s.install := rfl

/-- Every operation is an identity, or the reason why there is none, installed. -/
theorem Operation.attempt_eq (s : CredentialStore) (op : Operation) :
    op.attempt s = (op.identity s.paths).map s.install := by
  cases op <;> rfl

end CertRotation.CredentialStore

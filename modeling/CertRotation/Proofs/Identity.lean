/-
# `Proofs.Identity` — what makes an identity

An identity is read in stages: the chain from one text, the key from another, and the check that
joins them.  The first two do not see each other, so the texts of two identities can be exchanged
and only the check can notice.  It always does (`ofPem_mixed`).
-/
import CertRotation.Identity

namespace CertRotation.Identity

/-! ## The check of a key against a leaf -/

section
variable {leaf : Bytes} {key : PrivateKey} {c : X509.Certificate}

theorem check_of_invalid {f : X509.Fault} (h : X509.Certificate.ofDer leaf = .error f) :
    check leaf key = .error (.invalidCertificate f) := by
  unfold check
  split
  · rename_i f' h'
    rw [h] at h'
    rw [Except.error.inj h']
  · rename_i c' h'
    rw [h] at h'
    nomatch h'

/-- For a leaf that parses, the check fails as the probe does. -/
theorem check_of_run {e : LoadError} (h : X509.Certificate.ofDer leaf = .ok c)
    (he : Probe.run c key = .error e) : check leaf key = .error e := by
  unfold check
  split
  · rename_i f' h'
    rw [h] at h'
    nomatch h'
  · rename_i c' h'
    obtain rfl : c = c' := Except.ok.inj (h.symm.trans h')
    split
    · rename_i e' he'
      rw [he] at he'
      rw [Except.error.inj he']
    · rename_i hok
      rw [he] at hok
      nomatch hok

/-- A key that signs, and is not the leaf's, is a mismatch. -/
theorem check_of_mismatch (h : X509.Certificate.ofDer leaf = .ok c) (hsigns : key.signs = true)
    (hkey : c.publicKey? ≠ some key.publicKey) : check leaf key = .error .keyMismatch :=
  check_of_run h (by rw [Probe.run_eq, if_pos hsigns, if_neg hkey])

/-- Only keys that sign pass the check. -/
theorem signs_of_check {hc : PLift (Certifies leaf key)} (h : check leaf key = .ok hc) :
    key.signs = true := by
  cases hleaf : X509.Certificate.ofDer leaf with
  | error f => rw [check_of_invalid hleaf] at h; nomatch h
  | ok c =>
      by_cases hs : key.signs = true
      · exact hs
      · have hrun := Probe.run_eq c key
        rw [if_neg hs] at hrun
        rw [check_of_run hleaf hrun] at h
        nomatch h

end

/-! ## The stages of reading -/

section
variable {cert key : Bytes} {certPath keyPath : String}

/-- Once both texts are read, the check decides. -/
theorem ofPem_of_stages {leaf : Bytes} {issuers : List Bytes} {container : Pem.Container}
    {der : Bytes} {k : PrivateKey} (hchain : chainOf certPath cert = .ok (leaf :: issuers))
    (hkey : keyOf keyPath key = .ok (container, der))
    (hder : PrivateKey.ofDer? container der = some k) :
    ofPem cert certPath key keyPath = (check leaf k).map fun h => ⟨leaf, issuers, k, h.down⟩ := by
  unfold ofPem
  simp only [hchain, hkey, ofDer, hder]
  cases check leaf k <;> rfl

/-- The stages that an identity has gone through. -/
theorem stages_of_ofPem {i : Identity} (h : ofPem cert certPath key keyPath = .ok i) :
    chainOf certPath cert = .ok (i.leaf :: i.issuers) ∧
    ∃ container der, keyOf keyPath key = .ok (container, der) ∧
      PrivateKey.ofDer? container der = some i.key ∧ i.key.signs = true := by
  cases hchain : chainOf certPath cert with
  | error e => simp only [ofPem, hchain] at h; nomatch h
  | ok chain =>
      cases chain with
      | nil => simp only [ofPem, hchain] at h; nomatch h
      | cons leaf issuers =>
          cases hkey : keyOf keyPath key with
          | error e => simp only [ofPem, hchain, hkey] at h; nomatch h
          | ok found =>
              obtain ⟨container, der⟩ := found
              cases hder : PrivateKey.ofDer? container der with
              | none => simp only [ofPem, hchain, hkey, ofDer, hder] at h; nomatch h
              | some k =>
                  rw [ofPem_of_stages hchain hkey hder] at h
                  cases hcheck : check leaf k with
                  | error e => rw [hcheck] at h; nomatch h
                  | ok hc =>
                      rw [hcheck] at h
                      obtain rfl := Except.ok.inj h
                      exact ⟨rfl, container, der, rfl, hder, signs_of_check hcheck⟩

/-- The chain of one identity and the key of another are a mismatch, if the keys are of different
pairs. -/
theorem ofPem_mixed {cert' key' : Bytes} {i j : Identity}
    (hi : ofPem cert certPath key keyPath = .ok i)
    (hj : ofPem cert' certPath key' keyPath = .ok j) (hne : i.key.publicKey ≠ j.key.publicKey) :
    ofPem cert certPath key' keyPath = .error .keyMismatch := by
  obtain ⟨hchain, -⟩ := stages_of_ofPem hi
  obtain ⟨-, container, der, hkey, hder, hsigns⟩ := stages_of_ofPem hj
  obtain ⟨c, hleaf, hpublic⟩ := i.certifies
  have hother : c.publicKey? ≠ some j.key.publicKey := by
    rw [hpublic]
    exact fun h => hne (Option.some.inj h)
  rw [ofPem_of_stages hchain hkey hder, check_of_mismatch hleaf hsigns hother]
  rfl

end

end CertRotation.Identity

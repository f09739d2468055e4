/-
# `Proofs.KeyCheck` — the check of a key decides, whatever the key and however it comes

Three tables have to line up for every key: the schemes that the check asks for, those that the key
can sign with, and the algorithms that are tried on a scheme.  Where they do, a key that signs is
accepted exactly if its public key is the leaf's:

    the scheme chosen has an algorithm for the key's own kind        (`fitting_algorithm`)
    a key that signs  ⟹  accepted iff the leaf's, else a mismatch    (`ofDer_eq`)
    the container and the issuers are not looked at                  (`shown_ofDer`)

The public key of a leaf is its identifier and its octets, so a leaf of another type than the key is
a mismatch like any other.  That a signature verifies under a public key exactly if it was made by
that key pair is the assumption of `Probe`; that a key can sign at all is the hypothesis `signs`.  It
is a condition on the exponents of an RSA key and no condition on others.  For RSA numbers whose two
primes are primes, it says just that whatever they sign verifies (`RsaPrivate.signs_iff`).
-/
import CertRotation.Proofs.Identity

namespace CertRotation

/-! ## The tables line up -/

namespace Probe

/-- Among the algorithms tried on the scheme that a key chooses there is one under which every
signature of the key verifies, so the list tried on a key is never the empty default. -/
theorem fitting_algorithm (key : PrivateKey) :
    ∃ scheme tried, chooseScheme? key offered = some scheme ∧
      algorithms.lookup scheme = some tried ∧
      ∃ a ∈ tried, ∀ m s, sign key scheme m = .ok s → a.verifies key.publicKey m s = true := by
  obtain ⟨scheme, hchosen, hown⟩ := chooseScheme?_offered key
  cases htried : algorithms.lookup scheme with
  | none =>
      rw [htried] at hown
      exact absurd hown List.not_mem_nil
  | some tried =>
      rw [htried] at hown
      refine ⟨scheme, tried, hchosen, htried, _, hown, ?_⟩
      intro m s hs
      unfold sign at hs
      split at hs
      · obtain rfl := Except.ok.inj hs
        exact Algorithm.verifies_iff.mpr ⟨rfl, rfl, rfl⟩
      · nomatch hs

end Probe

namespace Identity

section
variable {leaf : Bytes} {issuers : List Bytes} {container : Pem.Container} {der : Bytes}
  {key : PrivateKey} {c : X509.Certificate}

/-! ## The check -/

/-- A key that signs, and is the leaf's, passes. -/
theorem check_of_match (h : X509.Certificate.ofDer leaf = .ok c) (hsigns : key.signs = true)
    (hkey : c.publicKey? = some key.publicKey) : ∃ hc, check leaf key = .ok hc := by
  have hrun : Probe.run c key = .ok () := by rw [Probe.run_eq, if_pos hsigns, if_pos hkey]
  unfold check
  split
  · rename_i f h'
    rw [h] at h'
    nomatch h'
  · rename_i c' h'
    obtain rfl : c = c' := Except.ok.inj (h.symm.trans h')
    split
    · rename_i e he
      rw [hrun] at he
      nomatch he
    · exact ⟨_, rfl⟩

/-- What an identity shows of its key: the leaf and the public key. -/
def shown (i : Identity) : Bytes × PublicKey :=
  (i.leaf, i.key.publicKey)

theorem ofDer_of_key (hkey : PrivateKey.ofDer? container der = some key) :
    ofDer (leaf :: issuers) container der =
      (check leaf key).map fun h => ⟨leaf, issuers, key, h.down⟩ := by
  simp only [ofDer, hkey]
  cases check leaf key <;> rfl

/-- A chain and a key that signs make an identity exactly if the leaf's public key is the key's own;
otherwise they are a mismatch. -/
theorem ofDer_eq (hleaf : X509.Certificate.ofDer leaf = .ok c)
    (hkey : PrivateKey.ofDer? container der = some key) (hsigns : key.signs = true) :
    (c.publicKey? = some key.publicKey ∧
      ∃ i, ofDer (leaf :: issuers) container der = .ok i ∧ i.chain = leaf :: issuers ∧ i.key = key) ∨
    (c.publicKey? ≠ some key.publicKey ∧
      ofDer (leaf :: issuers) container der = .error .keyMismatch) := by
  rw [ofDer_of_key hkey]
  by_cases hpublic : c.publicKey? = some key.publicKey
  · obtain ⟨hc, hcheck⟩ := check_of_match hleaf hsigns hpublic
    rw [hcheck]
    exact Or.inl ⟨hpublic, _, rfl, rfl, rfl⟩
  · rw [check_of_mismatch hleaf hsigns hpublic]
    exact Or.inr ⟨hpublic, rfl⟩

/-- What is shown follows from the leaf and the public key alone. -/
theorem shown_ofDer (hleaf : X509.Certificate.ofDer leaf = .ok c)
    (hkey : PrivateKey.ofDer? container der = some key) (hsigns : key.signs = true) :
    (ofDer (leaf :: issuers) container der).map shown =
      if c.publicKey? = some key.publicKey then .ok (leaf, key.publicKey)
      else .error .keyMismatch := by
  rcases @ofDer_eq leaf issuers container der key c hleaf hkey hsigns with
    ⟨hpublic, i, hi, hchain, hown⟩ | ⟨hpublic, hi⟩
  · rw [if_pos hpublic, hi, ← hown, ← (List.cons.inj hchain).1]
    rfl
  · rw [if_neg hpublic, hi]
    rfl

/-- An identity that was made has the chain that it was made of, and its first certificate is that
of its key. -/
theorem chain_of_ofDer {chain : List Bytes} {i : Identity} (h : ofDer chain container der = .ok i) :
    i.chain = chain ∧ ∃ c, X509.Certificate.ofDer i.leaf = .ok c ∧
      c.publicKey? = some i.key.publicKey := by
  refine ⟨?_, i.certifies⟩
  cases chain with
  | nil => cases h
  | cons leaf issuers =>
      cases hkey : PrivateKey.ofDer? container der with
      | none =>
          simp only [ofDer, hkey] at h
          cases h
      | some key =>
          rw [ofDer_of_key hkey] at h
          cases hcheck : check leaf key with
          | error e =>
              rw [hcheck] at h
              cases h
          | ok hc =>
              rw [hcheck] at h
              obtain rfl := Except.ok.inj h
              rfl

end

/-! ## Sound and complete -/

/-- For every leaf that parses and every private key that signs, in whichever container: the chain
and the key make an identity exactly if the leaf's public key is the key's own, and otherwise are a
mismatch, as they are whenever the two keys are of different types.  Another container for a key of
the same pair, and other certificates after the leaf, lead to the same decision, the same leaf and
the same public key.  The scheme that the key chooses always has a fitting algorithm among those
tried, and whatever identity comes of whatever chain and container has that chain, which begins with
the certificate of its key. -/
theorem key_check_decides {leaf : Bytes} {c : X509.Certificate} {container : Pem.Container}
    {der : Bytes} {key : PrivateKey} (hleaf : X509.Certificate.ofDer leaf = .ok c)
    (hkey : PrivateKey.ofDer? container der = some key) (hsigns : key.signs = true)
    (issuers : List Bytes) :
    ((∃ i, ofDer (leaf :: issuers) container der = .ok i) ↔ c.publicKey? = some key.publicKey) ∧
    (c.publicKey? ≠ some key.publicKey →
      ofDer (leaf :: issuers) container der = .error .keyMismatch) ∧
    (∀ k, c.publicKey? = some k → k.algorithm ≠ key.publicKey.algorithm →
      ofDer (leaf :: issuers) container der = .error .keyMismatch) ∧
    (∀ (container' : Pem.Container) (der' : Bytes) (key' : PrivateKey) (issuers' : List Bytes),
      PrivateKey.ofDer? container' der' = some key' → key'.publicKey = key.publicKey →
      key'.signs = true →
      (ofDer (leaf :: issuers') container' der').map shown =
        (ofDer (leaf :: issuers) container der).map shown) ∧
    (∃ scheme tried, Probe.chooseScheme? key Probe.offered = some scheme ∧
      Probe.algorithms.lookup scheme = some tried ∧
      ∃ a ∈ tried, ∀ m s, Probe.sign key scheme m = .ok s →
        a.verifies key.publicKey m s = true) ∧
    (∀ (chain : List Bytes) (container' : Pem.Container) (der' : Bytes) (i : Identity),
      ofDer chain container' der' = .ok i →
      i.chain = chain ∧ chain ≠ [] ∧ ∃ c, X509.Certificate.ofDer i.leaf = .ok c ∧
        chain.head? = some i.leaf ∧ c.publicKey? = some i.key.publicKey) := by
  have hdecided := @ofDer_eq leaf issuers container der key c hleaf hkey hsigns
  have hmismatch (hne : c.publicKey? ≠ some key.publicKey) :
      ofDer (leaf :: issuers) container der = .error .keyMismatch := by
    rcases hdecided with ⟨heq, -⟩ | ⟨-, herror⟩
    · exact absurd heq hne
    · exact herror
  refine ⟨⟨?_, ?_⟩, hmismatch, ?_, ?_, Probe.fitting_algorithm key, ?_⟩
  · rintro ⟨i, hi⟩
    rcases hdecided with ⟨heq, -⟩ | ⟨-, herror⟩
    · exact heq
    · rw [herror] at hi
      nomatch hi
  · intro heq
    rcases hdecided with ⟨-, i, hi, -⟩ | ⟨hne, -⟩
    · exact ⟨i, hi⟩
    · exact absurd heq hne
  · intro k hk htype
    refine hmismatch fun heq => htype ?_
    rw [← Option.some.inj (hk.symm.trans heq)]
  · intro container' der' key' issuers' hkey' hpublic hsigns'
    rw [shown_ofDer hleaf hkey hsigns, shown_ofDer hleaf hkey' hsigns', hpublic]
  · intro chain container' der' i hi
    obtain ⟨hchain, c', hc', hpublic⟩ := chain_of_ofDer hi
    refine ⟨hchain, ?_, c', hc', ?_, hpublic⟩
    · rw [← hchain]
      exact List.cons_ne_nil _ _
    · rw [← hchain]
      rfl

/-! ### One key in two containers -/

/-- The first point of P-256, which is the public key of the number one. -/
def firstPoint : Bytes :=
  [0x04, 0x6B, 0x17, 0xD1, 0xF2, 0xE1, 0x2C, 0x42, 0x47, 0xF8, 0xBC, 0xE6, 0xE5, 0x63, 0xA4, 0x40,
    0xF2, 0x77, 0x03, 0x7D, 0x81, 0x2D, 0xEB, 0x33, 0xA0, 0xF4, 0xA1, 0x39, 0x45, 0xD8, 0x98, 0xC2,
    0x96, 0x4F, 0xE3, 0x42, 0xE2, 0xFE, 0x1A, 0x7F, 0x9B, 0x8E, 0xE7, 0xEB, 0x4A, 0x7C, 0x0F, 0x9E,
    0x16, 0x2B, 0xCE, 0x33, 0x57, 0x6B, 0x31, 0x5E, 0xCE, 0xCB, 0xB6, 0x40, 0x68, 0x37, 0xBF, 0x51,
    0xF5]

/-- A certificate for `localhost` over a point of P-256. -/
def leafOver (point : Bytes) : Bytes :=
  let value := PrivateKey.encodeValue
  let name (s : String) := value Asn1.Tag.sequence
    (value Asn1.Tag.set (value Asn1.Tag.sequence ([0x06, 0x03, 0x55, 0x04, 0x03] ++
      value Asn1.Tag.utf8String (Pem.ascii s))))
  let time (s : String) := value Asn1.Tag.utcTime (Pem.ascii s)
  let algorithm := value Asn1.Tag.sequence [0x06, 0x08, 0x2A, 0x86, 0x48, 0xCE, 0x3D, 0x04, 0x03, 0x02]
  let signed := value Asn1.Tag.sequence
    ([0xA0, 0x03, 0x02, 0x01, 0x02, 0x02, 0x01, 0x01] ++ algorithm ++ name "I" ++
      value Asn1.Tag.sequence (time "250101000000Z" ++ time "450101000000Z") ++ name "localhost" ++
      value Asn1.Tag.sequence (value Asn1.Tag.sequence (PublicKey.ecAlgorithm .p256) ++
        value Asn1.Tag.bitString (0 :: point)))
  value Asn1.Tag.sequence (signed ++ algorithm ++ value Asn1.Tag.bitString [0, 0x30, 0])

/-- The number one as a key on P-256, by itself. -/
def firstSec1 : Bytes :=
  PrivateKey.encodeValue Asn1.Tag.sequence ([0x02, 0x01, 0x01, 0x04, 0x20] ++ List.replicate 31 0 ++
    [0x01, 0xA1, 0x44, 0x03, 0x42, 0x00] ++ firstPoint)

/-- A key of an algorithm in the container of all keys. -/
def wrap (algorithm content : Bytes) : Bytes :=
  let value := PrivateKey.encodeValue
  value Asn1.Tag.sequence ([0x02, 0x01, 0x00] ++ value Asn1.Tag.sequence algorithm ++
    value Asn1.Tag.octetString content)

/-- A key of another type. -/
def edKey : Bytes :=
  wrap PublicKey.edAlgorithm ([0x04, 0x20] ++ List.replicate 32 7)

theorem certifies_of_publicKey {leaf : Bytes} {key : PrivateKey}
    (h : (X509.Certificate.ofDer leaf).toOption.map (·.publicKey?) = some (some key.publicKey)) :
    Certifies leaf key := by
  cases hleaf : X509.Certificate.ofDer leaf with
  | error f =>
      rw [hleaf] at h
      nomatch h
  | ok c =>
      rw [hleaf] at h
      exact ⟨c, hleaf, Option.some.inj h⟩

theorem firstLeaf_publicKey : (X509.Certificate.ofDer (leafOver firstPoint)).toOption.map
    (·.publicKey?) = some (some (PrivateKey.ec .p256 1).publicKey) := by
  decide +kernel

/-- The key of the leaf is accepted in either container, whatever follows the leaf; a key of another
type is a mismatch. -/
theorem key_check_decides_first :
    PrivateKey.ofDer? .sec1 firstSec1 = some (.ec .p256 1) ∧
    PrivateKey.ofDer? .pkcs8 (wrap (PublicKey.ecAlgorithm .p256) firstSec1) = some (.ec .p256 1) ∧
    (∃ i, ofDer [leafOver firstPoint] .sec1 firstSec1 = .ok i) ∧
    (∃ i, ofDer [leafOver firstPoint, []] .pkcs8 (wrap (PublicKey.ecAlgorithm .p256) firstSec1) =
      .ok i) ∧
    ofDer [leafOver firstPoint] .pkcs8 edKey = .error .keyMismatch := by
  have hsec1 : PrivateKey.ofDer? .sec1 firstSec1 = some (.ec .p256 1) := by decide +kernel
  have hpkcs8 : PrivateKey.ofDer? .pkcs8 (wrap (PublicKey.ecAlgorithm .p256) firstSec1) =
      some (.ec .p256 1) := by decide +kernel
  have hed : PrivateKey.ofDer? .pkcs8 edKey = some (.ed25519 (List.replicate 32 7)) := by
    decide +kernel
  obtain ⟨c, hleaf, hpublic⟩ := certifies_of_publicKey firstLeaf_publicKey
  refine ⟨hsec1, hpkcs8, ?_, ?_, ?_⟩
  · exact (key_check_decides hleaf hsec1 rfl []).1.mpr hpublic
  · exact (key_check_decides hleaf hpkcs8 rfl [[]]).1.mpr hpublic
  · exact (key_check_decides hleaf hed rfl []).2.2.1 _ hpublic (by decide)

end Identity
end CertRotation

/-
What both sides of the program allow in a handshake: protocol versions, cipher
suites and key exchange groups, strongest first.

No version below TLS 1.2 is offered, and of its suites only two, whose keys are
agreed on elliptic curves and signed with ECDSA.
-/
namespace CertRotation.Tls

/-- The protocol versions known here. -/
inductive Version where
  | tls13
  | tls12
deriving DecidableEq, Repr

/-- How a suite of TLS 1.2 authenticates the server; TLS 1.3 leaves it open. -/
inductive SuiteAuth where
  | any
  | ecdsa
  | rsa
deriving DecidableEq, Repr

/-- The cipher suites known here. -/
inductive Suite where
  | aes256
  | aes128
  | chacha20
  | ecdheEcdsaAes256
  | ecdheEcdsaAes128
  | ecdheEcdsaChacha20
  | ecdheRsaAes256
  | ecdheRsaAes128
  | ecdheRsaChacha20
deriving DecidableEq, Repr

/-- The key exchange groups known here. -/
inductive Group where
  | x25519
  | secp256r1
  | secp384r1
deriving DecidableEq, Repr

/-- The name of a version. -/
def Version.name : Version → String
  | .tls13 => "TLSv1_3"
  | .tls12 => "TLSv1_2"

namespace Suite

/-- The name of a suite. -/
def name : Suite → String
  | .aes256 => "TLS13_AES_256_GCM_SHA384"
  | .aes128 => "TLS13_AES_128_GCM_SHA256"
  | .chacha20 => "TLS13_CHACHA20_POLY1305_SHA256"
  | .ecdheEcdsaAes256 => "TLS_ECDHE_ECDSA_WITH_AES_256_GCM_SHA384"
  | .ecdheEcdsaAes128 => "TLS_ECDHE_ECDSA_WITH_AES_128_GCM_SHA256"
  | .ecdheEcdsaChacha20 => "TLS_ECDHE_ECDSA_WITH_CHACHA20_POLY1305_SHA256"
  | .ecdheRsaAes256 => "TLS_ECDHE_RSA_WITH_AES_256_GCM_SHA384"
  | .ecdheRsaAes128 => "TLS_ECDHE_RSA_WITH_AES_128_GCM_SHA256"
  | .ecdheRsaChacha20 => "TLS_ECDHE_RSA_WITH_CHACHA20_POLY1305_SHA256"

/-- Every suite, in the order of a stack without a policy of its own. -/
def all : List Suite :=
  [.aes256, .aes128, .chacha20, .ecdheEcdsaAes256, .ecdheEcdsaAes128, .ecdheEcdsaChacha20,
    .ecdheRsaAes256, .ecdheRsaAes128, .ecdheRsaChacha20]

/-- The suite of a name. -/
def ofName? (s : String) : Option Suite :=
  all.find? (·.name == s)

/-- The only version that a suite belongs to. -/
def version : Suite → Version
  | .aes256 | .aes128 | .chacha20 => .tls13
  | _ => .tls12

/-- How the server must authenticate under a suite. -/
def auth : Suite → SuiteAuth
  | .aes256 | .aes128 | .chacha20 => .any
  | .ecdheEcdsaAes256 | .ecdheEcdsaAes128 | .ecdheEcdsaChacha20 => .ecdsa
  | .ecdheRsaAes256 | .ecdheRsaAes128 | .ecdheRsaChacha20 => .rsa

end Suite

namespace Group

/-- The name of a group. -/
def name : Group → String
  | .x25519 => "X25519"
  | .secp256r1 => "secp256r1"
  | .secp384r1 => "secp384r1"

/-- Every group, in the order of a stack without a policy of its own. -/
def all : List Group :=
  [.x25519, .secp256r1, .secp384r1]

/-- The group of a name. -/
def ofName? (s : String) : Option Group :=
  all.find? (·.name == s)

end Group

/-- What one side offers or accepts, each list in order of preference. -/
structure Policy where
  versions : List Version
  suites : List Suite
  groups : List Group
deriving DecidableEq, Repr

namespace Policy

/-- The policy of this program, on both sides. -/
def hardened : Policy where
  versions := [.tls13, .tls12]
  suites := [.aes256, .aes128, .chacha20, .ecdheEcdsaChacha20, .ecdheEcdsaAes128]
  groups := [.secp384r1, .secp256r1]

/-- A stack without a policy of its own. -/
def permissive : Policy where
  versions := [.tls13, .tls12]
  suites := Suite.all
  groups := Group.all

end Policy
end CertRotation.Tls

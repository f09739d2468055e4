/-
The SHA-2 hash functions, generic in the word.

A message is padded to whole blocks, each block is expanded into a schedule of
words, and the rounds fold the schedule into eight chaining words.  SHA-256
works on words of 32 bits, SHA-384 and SHA-512 on words of 64.
-/
import CertRotation.Crypto.Modular

namespace CertRotation.Crypto.Sha2

/-- What distinguishes the members of the family. -/
structure Params where
  /-- Bits of a word. -/
  bits : Nat
  /-- The constants of the rounds, one for each. -/
  rounds : List Nat
  /-- The chaining words to start with. -/
  initial : List Nat
  /-- Rotation amounts of the two big and the two small sigma functions; the
  third amount of a small one is a shift. -/
  big0 : Nat × Nat × Nat
  big1 : Nat × Nat × Nat
  small0 : Nat × Nat × Nat
  small1 : Nat × Nat × Nat
  /-- Octets of the digest. -/
  digestBytes : Nat

variable (p : Params)

/-- Octets of a word. -/
def Params.wordBytes : Nat := p.bits / 8

/-- Octets of a block: sixteen words. -/
def Params.blockBytes : Nat := p.wordBytes * 16

/-- The number of words. -/
def Params.words : Nat := Nat.pow 2 p.bits

def add (a b : Nat) : Nat := (a + b) % p.words

def rotr (n x : Nat) : Nat := (x >>> n) ||| (x <<< (p.bits - n)) % p.words

def sigmaBig (r : Nat × Nat × Nat) (x : Nat) : Nat :=
  rotr p r.1 x ^^^ rotr p r.2.1 x ^^^ rotr p r.2.2 x

def sigmaSmall (r : Nat × Nat × Nat) (x : Nat) : Nat :=
  rotr p r.1 x ^^^ rotr p r.2.1 x ^^^ (x >>> r.2.2)

def choose (e f g : Nat) : Nat := (e &&& f) ^^^ ((p.words - 1 - e) &&& g)

def majority (a b c : Nat) : Nat := (a &&& b) ^^^ (a &&& c) ^^^ (b &&& c)

/-- The padded message: a one bit, zeros, and the length in bits. -/
def pad (message : Bytes) : Bytes :=
  let lengthBytes := p.wordBytes * 2
  let used := (message.length + 1 + lengthBytes) % p.blockBytes
  let zeros := (p.blockBytes - used) % p.blockBytes
  message ++ [0x80] ++ List.replicate zeros 0 ++ toBytes lengthBytes (message.length * 8)

/-- Cuts a list into pieces of `n`, of which there are `count`. -/
def pieces (n : Nat) : Nat → List α → List (List α)
  | 0, _ => []
  | count + 1, s => s.take n :: pieces n count (s.drop n)

/-- Extends a schedule, kept newest first, by one word. -/
def nextWord (schedule : List Nat) : List Nat :=
  let at_ (i : Nat) := schedule.getD i 0
  let w := add p (add p (sigmaSmall p p.small1 (at_ 1)) (at_ 6))
    (add p (sigmaSmall p p.small0 (at_ 14)) (at_ 15))
  w :: schedule

/-- The words of all rounds, from the sixteen words of a block. -/
def schedule (block : List Nat) : List Nat :=
  ((List.range (p.rounds.length - 16)).foldl (fun s _ => nextWord p s) block.reverse).reverse

/-- The eight chaining words. -/
structure State where
  a : Nat
  b : Nat
  c : Nat
  d : Nat
  e : Nat
  f : Nat
  g : Nat
  h : Nat

def State.toList (s : State) : List Nat :=
  [s.a, s.b, s.c, s.d, s.e, s.f, s.g, s.h]

def State.ofList (l : List Nat) : State :=
  let at_ (i : Nat) := l.getD i 0
  ⟨at_ 0, at_ 1, at_ 2, at_ 3, at_ 4, at_ 5, at_ 6, at_ 7⟩

/-- One round. -/
def round (s : State) (k w : Nat) : State :=
  let t1 := add p (add p s.h (sigmaBig p p.big1 s.e))
    (add p (choose p s.e s.f s.g) (add p k w))
  let t2 := add p (sigmaBig p p.big0 s.a) (majority s.a s.b s.c)
  ⟨add p t1 t2, s.a, s.b, s.c, add p s.d t1, s.e, s.f, s.g⟩

/-- Folds one block into the chaining words. -/
def compress (s : State) (block : Bytes) : State :=
  let words := (pieces p.wordBytes 16 block).map ofBytes
  let t := (p.rounds.zip (schedule p words)).foldl (fun s (k, w) => round p s k w) s
  State.ofList (List.zipWith (add p) s.toList t.toList)

/-- The digest of a message. -/
def hash (message : Bytes) : Bytes :=
  let padded := pad p message
  let blocks := pieces p.blockBytes (padded.length / p.blockBytes) padded
  let s := blocks.foldl (compress p) (State.ofList p.initial)
  (s.toList.flatMap (toBytes p.wordBytes)).take p.digestBytes

/-! ## The members of the family -/

/-- Constants of the rounds of the members with words of 64 bits; their upper
halves are those of SHA-256. -/
def rounds64 : List Nat := [
  0x428a2f98d728ae22, 0x7137449123ef65cd, 0xb5c0fbcfec4d3b2f, 0xe9b5dba58189dbbc,
  0x3956c25bf348b538, 0x59f111f1b605d019, 0x923f82a4af194f9b, 0xab1c5ed5da6d8118,
  0xd807aa98a3030242, 0x12835b0145706fbe, 0x243185be4ee4b28c, 0x550c7dc3d5ffb4e2,
  0x72be5d74f27b896f, 0x80deb1fe3b1696b1, 0x9bdc06a725c71235, 0xc19bf174cf692694,
  0xe49b69c19ef14ad2, 0xefbe4786384f25e3, 0x0fc19dc68b8cd5b5, 0x240ca1cc77ac9c65,
  0x2de92c6f592b0275, 0x4a7484aa6ea6e483, 0x5cb0a9dcbd41fbd4, 0x76f988da831153b5,
  0x983e5152ee66dfab, 0xa831c66d2db43210, 0xb00327c898fb213f, 0xbf597fc7beef0ee4,
  0xc6e00bf33da88fc2, 0xd5a79147930aa725, 0x06ca6351e003826f, 0x142929670a0e6e70,
  0x27b70a8546d22ffc, 0x2e1b21385c26c926, 0x4d2c6dfc5ac42aed, 0x53380d139d95b3df,
  0x650a73548baf63de, 0x766a0abb3c77b2a8, 0x81c2c92e47edaee6, 0x92722c851482353b,
  0xa2bfe8a14cf10364, 0xa81a664bbc423001, 0xc24b8b70d0f89791, 0xc76c51a30654be30,
  0xd192e819d6ef5218, 0xd69906245565a910, 0xf40e35855771202a, 0x106aa07032bbd1b8,
  0x19a4c116b8d2d0c8, 0x1e376c085141ab53, 0x2748774cdf8eeb99, 0x34b0bcb5e19b48a8,
  0x391c0cb3c5c95a63, 0x4ed8aa4ae3418acb, 0x5b9cca4f7763e373, 0x682e6ff3d6b2b8a3,
  0x748f82ee5defb2fc, 0x78a5636f43172f60, 0x84c87814a1f0ab72, 0x8cc702081a6439ec,
  0x90befffa23631e28, 0xa4506cebde82bde9, 0xbef9a3f7b2c67915, 0xc67178f2e372532b,
  0xca273eceea26619c, 0xd186b8c721c0c207, 0xeada7dd6cde0eb1e, 0xf57d4f7fee6ed178,
  0x06f067aa72176fba, 0x0a637dc5a2c898a6, 0x113f9804bef90dae, 0x1b710b35131c471b,
  0x28db77f523047d84, 0x32caab7b40c72493, 0x3c9ebe0a15c9bebc, 0x431d67c49c100d4c,
  0x4cc5d4becb3e42b6, 0x597f299cfc657e2a, 0x5fcb6fab3ad6faec, 0x6c44198c4a475817]

def sha256Params : Params where
  bits := 32
  rounds := (rounds64.take 64).map (· >>> 32)
  initial := [0x6a09e667, 0xbb67ae85, 0x3c6ef372, 0xa54ff53a, 0x510e527f, 0x9b05688c, 0x1f83d9ab,
    0x5be0cd19]
  big0 := (2, 13, 22)
  big1 := (6, 11, 25)
  small0 := (7, 18, 3)
  small1 := (17, 19, 10)
  digestBytes := 32

def sha512Params : Params where
  bits := 64
  rounds := rounds64
  initial := [0x6a09e667f3bcc908, 0xbb67ae8584caa73b, 0x3c6ef372fe94f82b, 0xa54ff53a5f1d36f1,
    0x510e527fade682d1, 0x9b05688c2b3e6c1f, 0x1f83d9abfb41bd6b, 0x5be0cd19137e2179]
  big0 := (28, 34, 39)
  big1 := (14, 18, 41)
  small0 := (1, 8, 7)
  small1 := (19, 61, 6)
  digestBytes := 64

def sha384Params : Params :=
  { sha512Params with
    initial := [0xcbbb9d5dc1059ed8, 0x629a292a367cd507, 0x9159015a3070dd17, 0x152fecd8f70e5939,
      0x67332667ffc00b31, 0x8eb44a8768581511, 0xdb0c2e0d64f98fa7, 0x47b5481dbefa4fa4]
    digestBytes := 48 }

end Sha2

/-- The digests that signatures use. -/
inductive Digest where
  | sha256
  | sha384
  | sha512
deriving DecidableEq, Repr

namespace Digest

def params : Digest → Sha2.Params
  | .sha256 => Sha2.sha256Params
  | .sha384 => Sha2.sha384Params
  | .sha512 => Sha2.sha512Params

/-- The digest of a message. -/
def hash (d : Digest) (message : Bytes) : Bytes :=
  Sha2.hash d.params message

/-- Octets of a digest. -/
def size (d : Digest) : Nat :=
  d.params.digestBytes

end Digest
end CertRotation.Crypto

/-
Paths from a certificate to a trusted root.

A path is searched upwards: every certificate on it is valid by itself, each is
signed by the next, and the constraints of each hold for all below it.  All
roots and all presented certificates are tried as issuers, and where none leads
to a root the most specific reason met is the verdict.  Budgets bound the work
that a presented chain can ask for.
-/
import CertRotation.X509.GeneralName
import CertRotation.X509.Signature

namespace CertRotation.X509

open Asn1

/-- What a certificate is used for. -/
inductive Purpose where
  | server
  | client
deriving DecidableEq, Repr

/-- The object identifier of a purpose. -/
def Purpose.oid : Purpose → Bytes
  | .server => [0x2B, 0x06, 0x01, 0x05, 0x05, 0x07, 0x03, 0x01]
  | .client => [0x2B, 0x06, 0x01, 0x05, 0x05, 0x07, 0x03, 0x02]

/-- The place of a certificate on a path. -/
inductive Role where
  | endEntity
  | issuer
deriving DecidableEq, Repr

/-! ## Properties of one certificate -/

/-- A point in time off the front, in seconds from 1970. -/
def readTime (s : Bytes) : Except Fault (Int × Bytes) :=
  let form : Time.Form := if peek Tag.utcTime s then .utc else .generalized
  let tag := match form with
    | .utc => Tag.utcTime
    | .generalized => Tag.generalizedTime
  match expect tag s with
  | .error _ => .error .badDer
  | .ok (c, r) =>
    match Time.strict? form c with
    | some t => .ok (t.toUnix, r)
    | none => .error .badDerTime

/-- Checks a validity against the clock. -/
def checkValidity (now : Int) (s : Bytes) : Except Fault (Unit × Bytes) := do
  let (notBefore, s) ← readTime s
  let (notAfter, s) ← readTime s
  if notAfter < notBefore then .error .invalidCertValidity
  else if now < notBefore then .error .certNotValidYet
  else if notAfter < now then .error .certExpired
  else return ((), s)

/-- Whether a certificate is an authority, and how many may follow below it. -/
def readBasicConstraints (s : Bytes) : Except Fault ((Bool × Option Nat) × Bytes) := do
  let (isCa, s) ← flag s
  if s.isEmpty then return ((isCa, none), s)
  else
    let (n, s) ← octet s
    return ((isCa, some n), s)

/-- Checks a certificate's standing against its place, with `below` authorities under it. -/
def checkStanding (role : Role) (below : Nat) : Bool × Option Nat → Except Fault Unit
  | (isCa, limit) =>
    match role, isCa with
    | .endEntity, true => .error .caUsedAsEndEntity
    | .issuer, false => .error .endEntityUsedAsCa
    | .issuer, true => if limit.any (· < below) then .error .pathLenConstraintViolated else .ok ()
    | .endEntity, false => .ok ()

/-- Looks for a purpose in a list of at most `n`. -/
def findPurpose (p : Purpose) : Nat → Bytes → Except Fault Unit
  | 0, _ => .error .badDer
  | n + 1, s => do
    let (oid, s) ← expect Tag.oid s
    if oid = p.oid then return ()
    else if s.isEmpty then .error .requiredEkuNotFound
    else findPurpose p n s

/-- Checks what can be said of a certificate without its issuer. -/
def checkAlone (c : Certificate) (now : Int) (role : Role) (below : Nat) (p : Purpose) :
    Except Fault Unit := do
  readAll .badDer c.validity (checkValidity now)
  match c.extensions.basicConstraints with
  | none => checkStanding role below (false, none)
  | some s =>
    let (standing, rest) ← readBasicConstraints s
    checkStanding role below standing
    if !rest.isEmpty then .error .badDer
  match c.extensions.extendedKeyUsage with
  | none => return ()
  | some s => findPurpose p (s.length + 1) s

/-! ## The search -/

/-- What a search may still spend. -/
structure Budget where
  signatures : Nat := 100
  calls : Nat := 200000
  comparisons : Nat := 250000

/-- A search fails with a reason and keeps its budget. -/
abbrev Search := ExceptT Fault (StateM Budget)

def spendSignature : Search Unit := do
  let b ← get
  if b.signatures = 0 then throw .maximumSignatureChecks
  set { b with signatures := b.signatures - 1 }

def spendCall : Search Unit := do
  let b ← get
  if b.calls = 0 then throw .maximumPathBuildCalls
  set { b with calls := b.calls - 1 }

def spendComparison : Search Unit := do
  let b ← get
  if b.comparisons = 0 then throw .maximumNameConstraintComparisons
  set { b with comparisons := b.comparisons - 1 }

def Search.lift {α : Type} (r : Except Fault α) : Search α :=
  match r with
  | .ok a => pure a
  | .error f => throw f

/-- The outcome of a search as a value. -/
def Search.outcome {α : Type} (x : Search α) : Search (Except Fault α) :=
  ExceptT.mk do
    let r ← x.run
    return .ok r

/-- Tries candidates in turn.  A fatal reason ends the search, of the others the most
specific one is kept. -/
def tryEach {α β : Type} (reason : Fault) (f : α → Search β) : List α → Search β
  | [] => throw reason
  | a :: as => do
    match ← (f a).outcome with
    | .ok b => return b
    | .error e => if e.isFatal then throw e else tryEach (reason.moreSpecific e) f as

/-! ### Constraints on names -/

/-- The two kinds of subtrees. -/
inductive Subtrees where
  | permitted
  | excluded
deriving DecidableEq, Repr

/-- Whether a name lies within one subtree; `none` where the two are of different kinds. -/
def withinSubtree (kind : Subtrees) (name base : GeneralName) : Option (Except Fault Bool) :=
  match name, base with
  | .dns n, .dns b =>
    some (GeneralName.withinConstraint (GeneralName.chars n) (GeneralName.chars b))
  | .directory, .directory => some (.ok (kind == .excluded))
  | .ip n, .ip b => some (GeneralName.withinNetwork n b)
  | .unsupported n, .unsupported b => if n = b then some (.error .nameConstraintViolation) else none
  | _, _ => none

/-- Checks a name against a list of subtrees of one kind, of at most `n`.  `hit` and `miss`
tell whether a permitted one matched, and whether one did not. -/
def checkSubtrees (kind : Subtrees) (name : GeneralName) (hit miss : Bool) :
    Nat → Bytes → Search Unit
  | 0, _ => pure ()
  | n + 1, s => do
    if s.isEmpty then
      if miss && !hit then throw .nameConstraintViolation
    else
      spendComparison
      let (content, s) ← Search.lift (expect Tag.sequence s)
      let base ← Search.lift (readAll (.trailingData "GeneralName") content GeneralName.read)
      match withinSubtree kind name base with
      | none => checkSubtrees kind name hit miss n s
      | some (.error f) => throw f
      | some (.ok within) =>
        match kind, within with
        | .permitted, true => checkSubtrees kind name true miss n s
        | .permitted, false => checkSubtrees kind name hit true n s
        | .excluded, true => throw .nameConstraintViolation
        | .excluded, false => checkSubtrees kind name hit miss n s

/-- Subtrees off the front of a constraint, if they come next. -/
def readSubtrees (tag : Bytes) (s : Bytes) : Except Fault (Option Bytes × Bytes) :=
  if peek tag s then (expect tag s).map fun (c, r) => (some c, r) else .ok (none, s)

/-- Checks one name against the constraints of an issuer. -/
def checkName (permitted excluded : Option Bytes) (name : Except Fault GeneralName) :
    Search Unit := do
  let name ← Search.lift name
  if let some s := permitted then checkSubtrees .permitted name false false (s.length + 1) s
  if let some s := excluded then checkSubtrees .excluded name false false (s.length + 1) s

/-- Checks the constraints of an issuer for the certificates below it. -/
def checkConstraints (constraints : Option Bytes) (below : List Certificate) : Search Unit := do
  match constraints with
  | none => return ()
  | some s =>
    let (permitted, s) ← Search.lift (readSubtrees (Tag.explicit 0) s)
    let (excluded, s) ← Search.lift (readSubtrees (Tag.explicit 1) s)
    for c in below do
      for name in GeneralName.allOf c do
        checkName permitted excluded name
    if !s.isEmpty then throw .badDer

/-- Checks the constraints of an anchor and of every certificate on the path, top first. -/
def checkAllConstraints (constraints : Option Bytes) : List Certificate → Search Unit
  | [] => return ()
  | c :: below => do
    checkConstraints constraints (c :: below)
    checkAllConstraints c.extensions.nameConstraints below

/-- Checks every signature on the path, top first, starting under the anchor's key. -/
def checkSignatures (publicKey : Bytes) : List Certificate → Search Unit
  | [] => return ()
  | c :: below => do
    spendSignature
    Search.lift (c.signed.verify publicKey)
    checkSignatures c.publicKey below

/-! ### Building -/

/-- At most this many certificates between the end entity and an anchor. -/
def maxIntermediates : Nat := 6

/-- What a search is for and what it may use. -/
structure Problem where
  anchors : List TrustAnchor
  presented : List (Except Fault Certificate)
  purpose : Purpose
  now : Int

namespace Problem

variable (p : Problem)

/-- The path ends at an anchor that issued its top. -/
def anchorAbove (top : Certificate) (below : List Certificate) (a : TrustAnchor) : Search Unit := do
  if top.issuer ≠ a.subject then throw .unknownIssuer
  checkSignatures a.publicKey (top :: below)
  checkAllConstraints a.nameConstraints (top :: below)

/-- A presented certificate that issued the top and is not yet on the path. -/
def issuerAbove (top : Certificate) (below : List Certificate)
    (candidate : Except Fault Certificate) : Except Fault Certificate := do
  let c ← candidate
  if c.subject ≠ top.issuer then .error .unknownIssuer
  else if (top :: below).any (fun d => d.publicKey == c.publicKey && d.subject == c.subject) then
    .error .unknownIssuer
  else return c

/-- Extends a path upwards, by at most `room` certificates, until an anchor ends it.  `authorities`
counts the certificates between the end entity and the top. -/
def extend : (room : Nat) → (role : Role) → (authorities : Nat) → Certificate → List Certificate →
    Search Unit
  | room, role, authorities, top, below => do
    Search.lift (checkAlone top p.now role authorities p.purpose)
    match ← Search.outcome (tryEach .unknownIssuer (anchorAbove top below) p.anchors) with
    | .ok _ => return ()
    | .error reason =>
      if reason.isFatal then throw reason
      else
        tryEach reason
          (fun candidate => do
            let c ← Search.lift (issuerAbove top below candidate)
            spendCall
            match room with
            | 0 => throw .maximumPathDepth
            | room + 1 =>
              let next := match role with
                | .endEntity => authorities
                | .issuer => authorities + 1
              extend room .issuer next c (top :: below))
          p.presented

end Problem

/-- Checks that a chain, leaf first, leads to a trusted anchor. -/
def verifyChain (anchors : List TrustAnchor) (leaf : Certificate) (issuers : List Bytes)
    (purpose : Purpose) (now : Int) : Except Fault Unit :=
  let p : Problem := ⟨anchors, issuers.map Certificate.ofDer, purpose, now⟩
  ((p.extend maxIntermediates .endEntity 0 leaf []).run.run {}).1

end CertRotation.X509

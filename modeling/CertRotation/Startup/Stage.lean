/-
The stages of a start-up, each of them described by itself.

A stage looks at the settings, at one file or two, or at one address, and fails with a
failure of its own, whatever the other stages come to.  Only what it needs of them may
not be there: without settings there is nothing to look at, and without a target no name
to expect.  Then it has nothing to object to.
-/
import CertRotation.Program

namespace CertRotation

namespace Startup

open Net

/-- What can go wrong with a start-up, in order.  The socket is a server's, and the stages behind
it are a client's. -/
inductive Stage where
  | settings
  | roots
  | identity
  | metrics
  | socket
  | target
  | targetText
  | serverName
deriving DecidableEq, Repr

namespace Stage

def all : List Stage :=
  [.settings, .roots, .identity, .metrics, .socket, .target, .targetText, .serverName]

/-- The stages up to the second load. -/
def loads : List Stage :=
  [.settings, .roots, .identity]

end Stage

/-- Why there is no result. -/
def reason? {ε α : Type} : Except ε α → Option ε
  | .error e => some e
  | .ok _ => none

/-- Where the metrics are read, if they can be. -/
def metricsPort? (h : Host) (s : Settings) : Option SocketAddress :=
  s.metricsListen.bind fun a => (h.network.listen h.taken a).toOption

/-- The name that a client expects of its server, if it was given one or has a target to take it
from; `some none` where this is no name. -/
def expectedName? (c : ClientSettings) : Option (Option ServerName) :=
  match c.serverName with
  | some n => some (ServerName.parse? n.toList)
  | none => (c.target.bind Target.parse?).map Target.serverName?

/-- The failure of a stage under some settings. -/
def failureUnder (h : Host) (s : Settings) : Stage → Option RunFailure
  | .settings => none
  | .roots => (reason? (TrustPool.load h.files s.identity.root).1).map .roots
  | .identity =>
    (reason? (Identity.load h.files s.identity.cert s.identity.key)).map .identity
  | .metrics =>
    s.metricsListen.bind fun a => (reason? (h.network.listen h.taken a)).map (.listen a)
  | .socket =>
    if s.mode = .server then
      (reason? (h.network.listen ((metricsPort? h s).toList ++ h.taken) s.listen)).map
        (.listen s.listen)
    else none
  | .target =>
    if s.mode = .client ∧ s.client.target = none then some .noTarget else none
  | .targetText =>
    if s.mode = .client ∧ s.client.target.map Target.parse? = some none then some .badTarget else none
  | .serverName =>
    if s.mode = .client ∧ expectedName? s.client = some none then some .badServerName else none

/-- The failure of a stage, if it fails. -/
def failure (h : Host) (stage : Stage) : Option RunFailure :=
  match Settings.load h.files h.environment with
  | .error c => if stage = .settings then some (.settings c) else none
  | .ok s => failureUnder h s stage

/-- The failure of the first stage that fails. -/
def firstFailure (h : Host) : Option RunFailure :=
  Stage.all.findSome? (failure h)

end Startup

/-- A scheduled reload, whatever it finds. -/
def Happening.isReload : Happening → Bool
  | .reloadDue _ => true
  | _ => false

end CertRotation

/-
From the settings to a running server or client, one stage after the other.

Every stage needs what the stages before it have made, and the first one that
fails ends the start-up with its own failure.  What the start-up does to the
world is recorded in order: nothing is scheduled and no port is opened before
the roots and the identity are there.
-/
import CertRotation.CredentialStore
import CertRotation.Net.Listening
import CertRotation.Requester
import CertRotation.Settings.Load
import CertRotation.TrustPool

namespace CertRotation

open Net

/-- What a start-up finds. -/
structure Host where
  files : FileTree := .empty
  environment : Settings.Environment := []
  network : Network := .loopback
  /-- Where others listen already. -/
  taken : List SocketAddress := []

/-! ## Failures -/

/-- Why a program ended. -/
inductive RunFailure where
  | settings (cause : SettingsError)
  | roots (cause : LoadError)
  | identity (cause : LoadError)
  | listen (address : SocketAddress) (cause : IoError)
  | noTarget
  | badTarget
  | badServerName
  | request (cause : Failure)
deriving DecidableEq, Repr

namespace RunFailure

/-- What the program was about to do. -/
def context : RunFailure → Option String
  | .settings _ => some "Failed to parse configuration files"
  | .roots _ | .identity _ => some "Failed to load credentials"
  | .listen a _ => some ("Failed to listen on " ++ String.ofList a.write)
  | .noTarget =>
    some "No target configured, set HELLO_MTLS_CLIENT__TARGET or HELLO_MTLS_URL"
  | .badTarget | .badServerName => none
  | .request _ => some "Request failed"

/-- What went wrong; a listener that cannot be opened is reported by its cause alone. -/
def failure? : RunFailure → Option Failure
  | .settings c => some (.settings c)
  | .roots c => some (.trustLoad c)
  | .identity c => some (.identityLoad c)
  | .listen _ _ => none
  | .noTarget | .badTarget | .badServerName => some .invalidTarget
  | .request c => some c

/-- All messages of a failure, the outermost first, with some of its causes. -/
def messages (causes : Failure → List String) (f : RunFailure) : List String :=
  let cause := match f with
    | .listen _ c => [c.message]
    | f => (f.failure?.map fun e => e.message :: causes e).getD []
  f.context.toList ++ cause

/-- The message of a failure and its causes. -/
def chain (f : RunFailure) : List String :=
  f.messages Failure.causes

/-- The event that logs a failure. -/
def event (f : RunFailure) : Event :=
  match f.messages Failure.loggedCauses with
  | [] => .fatal "" []
  | m :: cs => .fatal m cs

/-- Causes below each other, numbered if there are several. -/
def causeLines : List String → String
  | [] => ""
  | [c] => "\n\nCaused by:\n    " ++ c
  | cs =>
    "\n\nCaused by:" ++ String.join (cs.zipIdx.map fun (c, i) =>
      "\n    " ++ String.ofList (Text.Decimal.write i) ++ ": " ++ c)

/-- The report of a failure to whoever started the program. -/
def report (f : RunFailure) : String :=
  match f.chain with
  | [] => ""
  | m :: cs => "Error: " ++ m ++ causeLines cs ++ "\n"

end RunFailure

/-! ## Stages -/

/-- What a program does once it has started. -/
inductive Role where
  | serving (address : SocketAddress)
  | asking (requester : Requester)
deriving DecidableEq, Repr

/-- A program that has started. -/
structure Started where
  settings : Settings
  roots : TrustPool
  store : CredentialStore
  /-- Where its metrics are read. -/
  metrics : Option SocketAddress
  role : Role

/-- What a start-up does. -/
inductive Deed where
  | logged (event : Event)
  /-- Reloads were scheduled. -/
  | scheduled (interval : Duration)
  /-- A port was opened. -/
  | opened (address : SocketAddress)
deriving DecidableEq, Repr

/-- The event of a deed. -/
def Deed.event? : Deed → Option Event
  | .logged e => some e
  | .scheduled _ | .opened _ => none

/-- What a start-up did and how it ended. -/
structure Startup where
  deeds : List Deed
  result : Except RunFailure Started

namespace Startup

/-- Something done before the rest of a start-up. -/
def after (ds : List Deed) (u : Startup) : Startup :=
  { u with deeds := ds ++ u.deeds }

/-- A start-up that ends with a failure. -/
def failed (f : RunFailure) : Startup := ⟨[], .error f⟩

/-- The requester of a client. -/
def requester (c : ClientSettings) : Except RunFailure Requester :=
  match c.target with
  | none => .error .noTarget
  | some text =>
    match Target.parse? text with
    | none => .error .badTarget
    | some t =>
      match Requester.new? t c.serverName c.name c.timeout with
      | .ok r => .ok r
      | .error _ => .error .badServerName

/-- The listener at an address, next to those that are there. -/
def listen (h : Host) (own : List SocketAddress) (a : SocketAddress) :
    Except RunFailure SocketAddress :=
  match h.network.listen (own ++ h.taken) a with
  | .ok b => .ok b
  | .error c => .error (.listen a c)

/-- The last stage: the socket of a server, or the requester of a client. -/
def takeRole (h : Host) (s : Settings) (roots : TrustPool) (store : CredentialStore)
    (metrics : Option SocketAddress) : Startup :=
  match s.mode with
  | .server =>
    match listen h metrics.toList s.listen with
    | .error f => failed f
    | .ok a => ⟨[.opened a], .ok ⟨s, roots, store, metrics, .serving a⟩⟩
  | .client =>
    match requester s.client with
    | .error f => failed f
    | .ok r => ⟨[], .ok ⟨s, roots, store, metrics, .asking r⟩⟩

/-- The listener for metrics, if one is configured, and what follows it. -/
def openMetrics (h : Host) (s : Settings) (roots : TrustPool) (store : CredentialStore) :
    Startup :=
  match s.metricsListen with
  | none => takeRole h s roots store none
  | some a =>
    match listen h [] a with
    | .error f => failed f
    | .ok b => after [.opened b] (takeRole h s roots store (some b))

/-- The identity, the schedule of its reloads, and what follows. -/
def loadIdentity (h : Host) (s : Settings) (roots : TrustPool) : Startup :=
  match CredentialStore.ofFiles s.identity h.files with
  | .error c => failed (.identity c)
  | .ok (store, e) =>
    after [.logged e, .scheduled s.refreshInterval] (openMetrics h s roots store)

/-- The trusted roots and what follows them. -/
def loadRoots (h : Host) (s : Settings) : Startup :=
  let (pool, es) := TrustPool.load h.files s.identity.root
  after (es.map .logged) <|
    match pool with
    | .error c => failed (.roots c)
    | .ok roots => loadIdentity h s roots

end Startup

/-- Starts a program on a host. -/
def startUp (h : Host) : Startup :=
  match Settings.load h.files h.environment with
  | .error c => .failed (.settings c)
  | .ok s => Startup.loadRoots h s

end CertRotation

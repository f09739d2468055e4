/-
The settings of the program and their defaults.
-/
import CertRotation.Net.Address

namespace CertRotation

/-- A length of time in whole nanoseconds. -/
structure Duration where
  nanos : Nat
deriving DecidableEq, Repr

namespace Duration

def ofSecs (n : Nat) : Duration := ⟨n * 1000000000⟩

def ofMillis (n : Nat) : Duration := ⟨n * 1000000⟩

/-- Whole seconds. -/
def secs (d : Duration) : Nat := d.nanos / 1000000000

/-- Nanoseconds beyond the whole seconds. -/
def subsecNanos (d : Duration) : Nat := d.nanos % 1000000000

/-- Whole milliseconds. -/
def millis (d : Duration) : Nat := d.nanos / 1000000

def isZero (d : Duration) : Bool := d.nanos == 0

end Duration

/-- Which of its two roles the program plays. -/
inductive Mode where
  | server
  | client
deriving DecidableEq, Repr

/-- Where certificate, key and root bundle lie; another program renews these files. -/
structure IdentityPaths where
  cert : String := "/var/run/autocert.step.sm/site.crt"
  key : String := "/var/run/autocert.step.sm/site.key"
  root : String := "/var/run/autocert.step.sm/root.crt"
deriving DecidableEq, Repr

/-- Whom a client greets, under which name and how often. -/
structure ClientSettings where
  target : Option String := none
  serverName : Option String := none
  name : String := "world"
  requestInterval : Duration := .ofSecs 5
  timeout : Duration := .ofSecs 3
deriving DecidableEq, Repr

namespace Settings

/-- The port a server listens on when none is configured. -/
def defaultPort : UInt16 := 443

/-- The address a server listens on when none is configured. -/
def defaultAddress : Net.SocketAddress :=
  ⟨.v4 #v[127, 0, 0, 1], 0, defaultPort⟩

end Settings

/-- The whole configuration of a run. -/
structure Settings where
  workers : Option Nat := none
  mode : Mode := .server
  identity : IdentityPaths := {}
  refreshInterval : Duration := .ofSecs 15
  listen : Net.SocketAddress := Settings.defaultAddress
  client : ClientSettings := {}
  metricsListen : Option Net.SocketAddress := none
  url : Option String := none
deriving DecidableEq, Repr

end CertRotation

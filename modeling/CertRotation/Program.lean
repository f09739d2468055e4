/-
A whole run of the program, from its start to its exit.

After the start-up a run is driven by what happens to it: reloads that fall due,
replies to a client, the end of a client's requests, an interrupt.  Only the
last two can end it.
-/
import CertRotation.LogFilter
import CertRotation.Refresh
import CertRotation.Settings.VariableFile
import CertRotation.Startup

namespace CertRotation

/-- One thing that happens to a running program. -/
inductive Happening where
  /-- A scheduled reload falls due and finds these files. -/
  | reloadDue (files : FileTree)
  | replied (text : String)
  | requestsEnded (result : Except Failure Unit)
  | interrupted

/-- One thing that a program writes to its output. -/
inductive Output where
  | event (event : Event)
  | reply (text : String)
deriving DecidableEq, Repr

/-- What is written at an instant: a log line or a reply, behind the time. -/
def Output.write (seconds : Int) (micros : Nat) (o : Output) : String :=
  let clock := String.ofList (CalendarTime.ofUnix seconds).writeClock
  match o with
  | .event e =>
    clock ++ "." ++ String.ofList (Text.Decimal.padded 6 micros) ++ "Z " ++ e.logLine
  | .reply t => clock ++ "Z: " ++ t

/-- A program that runs. -/
structure Running where
  role : Role
  store : CredentialStore
  interrupted : Bool := false
  /-- How it ended, if it has. -/
  result : Option (Except RunFailure Unit) := none

namespace Running

/-- A program that has just started. -/
def new (s : Started) : Running :=
  { role := s.role, store := s.store }

/-- A cancelled schedule says so, once. -/
def stopRefresh (r : Running) : List Output :=
  if r.interrupted then [] else [.event .refreshStopped]

/-- A program whose requests have ended. -/
def finish (r : Running) (result : Except Failure Unit) : Running × List Output :=
  match result with
  | .ok () => ({ r with interrupted := true, result := some (.ok ()) }, r.stopRefresh)
  | .error c =>
    ({ r with interrupted := true, result := some (.error (.request c)) },
      r.stopRefresh ++ [.event (RunFailure.request c).event])

/-- An interrupt ends a server; a client finishes the pair of requests it is at. -/
def interrupt (r : Running) : Running × List Output :=
  if r.interrupted then (r, [])
  else
    let result := match r.role with
      | .serving _ => some (.ok ())
      | .asking _ => none
    ({ r with interrupted := true, result := result },
      [.event .shuttingDown, .event .refreshStopped])

/-- What one thing that happens makes of a running program. -/
def step (r : Running) (h : Happening) : Running × List Output :=
  if r.result.isSome then (r, [])
  else
    match h with
    | .reloadDue files =>
      if r.interrupted then (r, [])
      else
        let (store, es) := Rotation.tick files r.store
        ({ r with store := store }, es.map .event)
    | .replied t => (r, [.reply t])
    | .requestsEnded result => r.finish result
    | .interrupted => r.interrupt

/-- What a sequence of happenings makes of a running program. -/
def steps (r : Running) : List Happening → Running × List Output
  | [] => (r, [])
  | h :: hs =>
    let (r, os) := r.step h
    let (r, os') := r.steps hs
    (r, os ++ os')

end Running

namespace Program

/-- The settings file of a developer: variables that the environment lacks. -/
def variableFile : String := ".env"

/-- The host as the program sees it, its environment completed. -/
def prepare (h : Host) : Host :=
  match h.files.read variableFile with
  | .ok text => { h with environment := Settings.VariableFile.apply h.environment text }
  | .error _ => h

/-- The variable that asks for a log filter. -/
def filterVariable : String := "RUST_LOG"

/-- The log filter of a run. -/
def filter (h : Host) : LogFilter :=
  .ofText (h.environment.lookup filterVariable)

/-- What a server says before it accepts connections. -/
def readiness : Role → List Output
  | .serving a => [.event (.listening (String.ofList a.write))]
  | .asking _ => []

/-- What is logged of a failed start-up: nothing where the settings are at fault. -/
def failureOutputs : RunFailure → List Output
  | .settings _ => []
  | f => [.event f.event]

/-- What a start-up writes. -/
def startupOutputs (u : Startup) : List Output :=
  (u.deeds.filterMap Deed.event?).map .event
    ++ match u.result with
      | .ok s => readiness s.role
      | .error f => failureOutputs f

/-- The outputs that a filter lets through; replies are always shown. -/
def shown (f : LogFilter) (os : List Output) : List Output :=
  os.filter fun
    | .event e => f.shows e
    | .reply _ => true

/-- What a run wrote and how it ended; `none` while it goes on. -/
structure Run where
  outputs : List Output
  result : Option (Except RunFailure Unit)

/-- A run from the end of its start-up; what happens to it depends on what has started. -/
def continue_ (u : Startup) (life : Started → List Happening) : Run :=
  match u.result with
  | .error f => ⟨[], some (.error f)⟩
  | .ok s =>
    let (r, os) := (Running.new s).steps (life s)
    ⟨os, r.result⟩

/-- A whole run on a host. -/
def run (h : Host) (life : Started → List Happening) : Run :=
  let h := prepare h
  let u := startUp h
  let r := continue_ u life
  { r with outputs := shown (filter h) (startupOutputs u ++ r.outputs) }

/-- The exit code of a run that has ended. -/
def exitCode : Except RunFailure Unit → Nat
  | .ok () => 0
  | .error _ => 1

end Program
end CertRotation

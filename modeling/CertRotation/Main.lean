/-
The command line: takes the environment and the files of the process, runs the
program, and writes what it says.

No socket is opened here, so the program runs as on a host without a network: a
server waits for its interrupt and keeps its identity up to date, and a client
fails at its first request.
-/
import Std.Async.Select
import Std.Async.Signal
import Std.Async.Timer
import Std.Time.DateTime.Timestamp
import CertRotation.Program

namespace CertRotation.CommandLine

open Std.Async

/-- The variables of this process. -/
def environment : IO Settings.Environment := do
  let data ← IO.FS.readBinFile "/proc/self/environ"
  let text := String.ofList ((Text.Utf8.decode? data.toList).getD [])
  return (text.splitOn "\x00").filterMap fun entry =>
    (Text.splitFirst '=' entry.toList).map fun (n, v) => (String.ofList n, String.ofList v)

/-- A tree with one more file or directory of this host, if there is one at the path. -/
def addPath (t : FileTree) (path : String) : IO FileTree := do
  try
    return t.write path (← IO.FS.readBinFile path).toList
  catch
    | .inappropriateType .. => return t.mkdir path
    | _ => return t

/-- The files at some paths. -/
def snapshot (paths : List String) : IO FileTree :=
  paths.foldlM addPath .empty

/-- Where settings are looked for. -/
def settingsPaths : List String :=
  Program.variableFile :: Settings.fileName
    :: Settings.formats.map fun (ending, _) => Settings.fileName ++ "." ++ ending

/-- The files of an identity. -/
def identityPaths (p : IdentityPaths) : List String :=
  [p.cert, p.key, p.root]

/-- The host of this process, with the files that a run needs. -/
def host : IO Host := do
  let h : Host :=
    { files := ← snapshot settingsPaths
      environment := ← environment
      network := .isolated }
  match Settings.load h.files (Program.prepare h).environment with
  | .error _ => return h
  | .ok s => return { h with files := ← snapshot (settingsPaths ++ identityPaths s.identity) }

/-- Writes outputs behind the present time. -/
def write (os : List Output) : IO Unit := do
  let now := (← Std.Time.Timestamp.now).toNanosecondsSinceUnixEpoch.val
  let out ← IO.getStdout
  for o in os do
    out.putStrLn (o.write (now / 1000000000) (now % 1000000000 / 1000).toNat)
  out.flush

/-- Waits for the next thing that happens to a server. -/
def await (s : Settings) (interrupt : Signal.Waiter) : Async Happening := do
  let due ← Selector.sleep (.ofNat (max 1 s.refreshInterval.millis))
  Selectable.one #[
    .case interrupt.selector fun _ => return .interrupted,
    .case due fun _ => return .reloadDue (← snapshot (identityPaths s.identity))]

/-- Follows a server until it ends. -/
partial def serve (s : Settings) (f : LogFilter) (interrupt : Signal.Waiter) (r : Running) :
    Async (Except RunFailure Unit) := do
  match r.result with
  | some result => return result
  | none =>
    let (r, os) := r.step (← await s interrupt)
    write (Program.shown f os)
    serve s f interrupt r

/-- What a client does where nobody listens. -/
def requests (s : Settings) (r : Requester) : List Happening :=
  let names := Net.offlineResolver Settings.defaultAddress.ip
  let nobody := r.meets .isolated names (.refusing .connectionRefused)
  let run := r.run s.client.requestInterval .never [nobody]
  (run.result.map .requestsEnded).toList

/-- Follows a program that has started. -/
def live (s : Started) (f : LogFilter) : IO (Except RunFailure Unit) := do
  match s.role with
  | .serving _ => (serve s.settings f (← Signal.Waiter.mk .sigint true) (.new s)).block
  | .asking q =>
    let (r, os) := (Running.new s).steps (requests s.settings q)
    write (Program.shown f os)
    return r.result.getD (.ok ())

end CertRotation.CommandLine

open CertRotation in
/-- Runs the program and reports its failure. -/
def main : IO UInt32 := do
  let h := Program.prepare (← CommandLine.host)
  let u := startUp h
  let f := Program.filter h
  CommandLine.write (Program.shown f (Program.startupOutputs u))
  let result ← match u.result with
    | .error e => pure (.error e)
    | .ok s => CommandLine.live s f
  if let .error e := result then (← IO.getStderr).putStr e.report
  return UInt32.ofNat (Program.exitCode result)

/-
The greeter's side of a connection.

It reads one request line of at most 256 octets and answers it with one line, or
with nothing: a request that it does not understand gets no octet in reply, not
even the close that would look like an answer.
-/
import CertRotation.Greeting
import CertRotation.Net.Stream

namespace CertRotation.Greeter

open Text Net

/-- Octets of a request at most, its line feed included. -/
def maxRequest : Nat := 256

/-- What stands for the server's name towards a client that named none. -/
def unnamed : String := "unknown"

/-- The request that a line spells; white space at its end is no part of it. -/
def request? (line : List Char) : Option (Greeting × String) :=
  Greeting.ofRequest? (String.ofList (trimEnd line))

/-- The greeting in answer to a request. -/
def greet (serverName : Option String) (r : Greeting × String) : Stream :=
  ⟨Utf8.encode (r.1.reply r.2 (serverName.getD unnamed)).toList ++ [lineFeed], .closed⟩

/-- What the greeter sends in answer to what it receives. -/
def answer (serverName : Option String) (received : Stream) : Stream :=
  match (received.truncate maxRequest).readText with
  | none => ⟨[], .pending⟩
  | some (.error _) => ⟨[], .broken cutOff⟩
  | some (.ok line) =>
    match request? line with
    | none => ⟨[], .broken cutOff⟩
    | some r => greet serverName r

end CertRotation.Greeter

/-
The two greetings and their lines on the wire.

A request is a verb, a space and a name on one line; the reply repeats the name
and adds the name of the server.
-/
import CertRotation.Text.Blank

namespace CertRotation

open Text

/-- What a client asks to be greeted with. -/
inductive Greeting where
  | hello
  | helloAgain
deriving DecidableEq, Repr

namespace Greeting

/-- The first word of a request. -/
def verb : Greeting → String
  | .hello => "HELLO"
  | .helloAgain => "AGAIN"

/-- The greeting that a verb asks for. -/
def ofVerb? (v : List Char) : Option Greeting :=
  if v = Greeting.hello.verb.toList then some .hello
  else if v = Greeting.helloAgain.verb.toList then some .helloAgain
  else none

/-- The request line, with its line feed. -/
def request (g : Greeting) (name : String) : String :=
  g.verb ++ " " ++ name ++ "\n"

/-- Verb and name of a line: the verb ends at the first space or is the whole line. -/
def splitVerb (line : List Char) : List Char × List Char :=
  (splitFirst ' ' line).getD (line, [])

/-- The greeting and the trimmed name that a request line asks for. -/
def ofRequest? (line : String) : Option (Greeting × String) :=
  let (v, name) := splitVerb line.toList
  (ofVerb? v).map fun g => (g, String.ofList (trim name))

/-- What a reply says before the name. -/
def salutation : Greeting → String
  | .hello => "Hello "
  | .helloAgain => "Hello again "

/-- The reply, without a line feed. -/
def reply (g : Greeting) (name serverName : String) : String :=
  g.salutation ++ name ++ " (" ++ serverName ++ ")"

end Greeting
end CertRotation

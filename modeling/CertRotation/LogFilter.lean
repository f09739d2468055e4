/-
Which events a log shows.

A filter is a list of directives such as `warn` or `hello_mtls::components=debug`.
The directive with the longest source that an event's own source begins with
decides; where none does, the event is not shown.
-/
import CertRotation.Event

namespace CertRotation

open Text

/-- How much of what a source says is shown. -/
inductive Verbosity where
  | nothing
  | upTo (least : Level)
  | everything
deriving DecidableEq, Repr

namespace Verbosity

/-- Whether a level is shown. -/
def shows : Verbosity → Level → Bool
  | .nothing, _ => false
  | .upTo least, l => least.weight ≤ l.weight
  | .everything, _ => true

/-- The names of the verbosities, and the digits that stand for them. -/
def names : List (List String × Verbosity) :=
  [(["off", "0"], .nothing), (["error", "1"], .upTo .error), (["warn", "2"], .upTo .warn),
    (["info", "3"], .upTo .info), (["debug", "4"], .upTo .debug), (["trace", "5"], .everything)]

/-- The verbosity of a name; the case of its letters does not matter. -/
def ofName? (s : List Char) : Option Verbosity :=
  (names.find? fun (ns, _) => ns.contains (String.ofList (s.map Char.toLower))).map (·.2)

end Verbosity

/-- A verbosity for every source that begins in the same way. -/
structure LogDirective where
  source : List Char
  verbosity : Verbosity
deriving DecidableEq, Repr

/-- The directives of a log. -/
abbrev LogFilter := List LogDirective

namespace LogFilter

/-- The filter of a log for which nothing was asked. -/
def default : LogFilter := [⟨[], .upTo .info⟩]

/-- The filter of a log for which an empty text was asked. -/
def errorsOnly : LogFilter := [⟨[], .upTo .error⟩]

/-- A character of a source. -/
def isSourceChar (c : Char) : Bool :=
  c.isAlphanum || c == '_' || c == ':' || c == '-'

/-- The directive for a source.  The name of a verbosity is none. -/
def directive (source : List Char) (v : Verbosity) : LogDirective :=
  ⟨if (Verbosity.ofName? source).isSome then [] else source, v⟩

/-- The directive that a text spells: a verbosity, a source, or both. -/
def directive? (s : List Char) : Option LogDirective :=
  match Verbosity.ofName? s with
  | some v => some ⟨[], v⟩
  | none =>
    let source := s.takeWhile isSourceChar
    if source.isEmpty then none
    else
      match s.dropWhile isSourceChar with
      | [] | ['='] => some (directive source .everything)
      | '=' :: level => (Verbosity.ofName? level).map (directive source)
      | _ => none

/-- The filter that a text spells, directives between commas. -/
def parse? (s : List Char) : Option LogFilter :=
  if s.isEmpty then some errorsOnly else (splitAll ',' s).mapM fun d => directive? (trim d)

/-- The filter of a run that was given a text or none; a bad text counts as none. -/
def ofText (s : Option String) : LogFilter :=
  (s.bind fun s => parse? s.toList).getD default

/-- Of two directives the one with the longer source, the later one if both are as long. -/
def closer (best : Option LogDirective) (d : LogDirective) : Option LogDirective :=
  match best with
  | some b => if d.source.length < b.source.length then some b else some d
  | none => some d

/-- The directive that decides on a source. -/
def deciding? (f : LogFilter) (source : String) : Option LogDirective :=
  (f.filter fun d => d.source.isPrefixOf source.toList).foldl closer none

/-- Whether an event is shown. -/
def shows (f : LogFilter) (e : Event) : Bool :=
  (f.deciding? e.source).any fun d => d.verbosity.shows e.level

end LogFilter
end CertRotation

/-
A file of variables that complete the environment.

Each line assigns a value to a name.  Single quotes take a value as it stands;
elsewhere `$NAME` and `${NAME}` stand for a variable and a backslash escapes.
Quotes may span lines.  A variable of the environment is never replaced, and the
first line that cannot be read ends the file: what stands before it counts.
-/
import CertRotation.Settings.Layer
import CertRotation.Text.Utf8

namespace CertRotation.Settings.VariableFile

open Text

/-! ## Lines -/

/-- Where the scan of a line stands. -/
inductive Scan where
  | text
  | gap
  | escaped
  | single (escaped : Bool)
  | double (escaped : Bool)
deriving DecidableEq, Repr

/-- Where the scan stands behind one more character of text. -/
def Scan.start (c : Char) : Scan :=
  if c = '\\' then .escaped
  else if c = '"' then .double false
  else if c = '\'' then .single false
  else .text

/-- Where the scan stands behind one more character; `none` if a comment begins. -/
def Scan.next? : Scan → Char → Option Scan
  | .text, c => some (if isBlank c && c != '\n' && c != '\r' then .gap else .start c)
  | .gap, c => if c = '#' then none else some (.start c)
  | .escaped, _ => some .text
  | .single true, _ => some (.single false)
  | .single false, c => some (if c = '\'' then .text else .single (c == '\\'))
  | .double true, _ => some (.double false)
  | .double false, c => some (if c = '"' then .text else .double (c == '\\'))

/-- The part of a line before its comment, and where the scan stands at its end. -/
def scan : Scan → List Char → List Char × Option Scan
  | st, [] => ([], some st)
  | st, c :: r =>
    match st.next? c with
    | none => ([], none)
    | some st =>
      let (kept, final) := scan st r
      (c :: kept, final)

/-- The lines of a file with their ends. -/
def physicalLines : Bytes → List Bytes
  | [] => []
  | b :: r =>
    if b = 0x0A then [b] :: physicalLines r
    else
      match physicalLines r with
      | [] => [[b]]
      | l :: ls => (b :: l) :: ls

/-- A line without its end. -/
def dropLineEnd (l : List Char) : List Char :=
  match l.reverse with
  | '\n' :: '\r' :: r => r.reverse
  | '\n' :: r => r.reverse
  | _ => l

/-- Whether a line holds nothing but a comment. -/
def isComment (l : List Char) : Bool :=
  (trimStart l).head? == some '#'

/-- Lines with those joined that a quote spans, `none` for one that cannot be read. -/
def logicalLines : Option (List Char × Scan) → List (Option (List Char)) →
    List (Option (List Char))
  | none, [] => []
  | some _, [] => [none]
  | _, none :: _ => [none]
  | pending, some l :: ls =>
    let (before, st) := pending.getD ([], .text)
    if isComment (before ++ l) then logicalLines none ls
    else
      match scan st l with
      | (kept, none) => some (before ++ kept) :: logicalLines none ls
      | (kept, some .text) => some (dropLineEnd (before ++ kept)) :: logicalLines none ls
      | (kept, some st) => logicalLines (some (before ++ kept, st)) ls

/-! ## Values -/

/-- The value of a variable, empty where there is none. -/
def valueOf (env : Environment) (name : List Char) : List Char :=
  ((env.lookup (String.ofList name)).getD "").toList

/-- Where the reader of a value stands; outside of single quotes it may be inside double ones. -/
inductive Place where
  | plain (quoted : Bool)
  | verbatim
  | escape (quoted : Bool)
  | variable (quoted : Bool) (name : List Char)
  | braced (quoted : Bool) (name : List Char)
  | after
deriving DecidableEq, Repr

/-- The character that an escape stands for. -/
def unescape? (c : Char) : Option Char :=
  if c = 'n' then some '\n'
  else if ['\\', '\'', '"', '$', ' '].contains c then some c
  else none

/-- The value that a text spells. -/
def value? (env : Environment) : Place → List Char → Option (List Char)
  | .after, [] => some []
  | .after, c :: r =>
    if c = ' ' ∨ c = '\t' then value? env .after r else if c = '#' then some [] else none
  | .plain q, [] | .escape q, [] => if q then none else some []
  | .variable q name, [] => if q then none else some (valueOf env name)
  | .verbatim, [] | .braced _ _, [] => none
  | .escape q, c :: r =>
    match unescape? c with
    | some d => (value? env (.plain q) r).map (d :: ·)
    | none => none
  | .verbatim, c :: r =>
    if c = '\'' then value? env (.plain false) r else (value? env .verbatim r).map (c :: ·)
  | .variable q name, c :: r =>
    if c.isAlphanum then value? env (.variable q (name ++ [c])) r
    else if c = '\x7b' ∧ name = [] then value? env (.braced q []) r
    else if c = '$' then (value? env (.variable q []) r).map (valueOf env name ++ ·)
    else (value? env (.plain q) r).map (valueOf env name ++ c :: ·)
  | .braced q name, c :: r =>
    if c = '\x7d' then (value? env (.plain q) r).map (valueOf env name ++ ·)
    else value? env (.braced q (name ++ [c])) r
  | .plain q, c :: r =>
    if c = '$' then value? env (.variable q []) r
    else if c = '\\' then value? env (.escape q) r
    else if c = '"' then value? env (.plain !q) r
    else if q then (value? env (.plain q) r).map (c :: ·)
    else if c = '\'' then value? env .verbatim r
    else if c = ' ' ∨ c = '\t' then value? env .after r
    else (value? env (.plain q) r).map (c :: ·)

/-! ## Assignments -/

/-- A character of a variable's name. -/
def isNameChar (c : Char) : Bool :=
  c.isAlphanum || c == '_' || c == '.'

/-- Reads a name, which does not begin with a digit or a point. -/
def name? (s : List Char) : Option (List Char × List Char) :=
  if s.head?.any (fun c => c.isAlpha || c == '_') then
    some (s.takeWhile isNameChar, s.dropWhile isNameChar)
  else none

/-- Reads the equals sign behind a name. -/
def assigned? (s : List Char) : Option (List Char) :=
  match trimStart s with
  | '=' :: r => some (trimStart r)
  | _ => none

/-- The name and the text of the value; the word `export` may stand before the name. -/
def sides? (s : List Char) : Option (List Char × List Char) :=
  match name? s with
  | none => none
  | some (name, r) =>
    match assigned? r with
    | some v => some (name, v)
    | none =>
      if name = "export".toList then
        (name? (trimStart r)).bind fun (name, r) => (assigned? r).map fun v => (name, v)
      else none

/-- The variable that a line sets, if any; the outer `none` is a line that cannot be read. -/
def assignment? (env : Environment) (line : List Char) : Option (Option (String × String)) :=
  let s := trim line
  if s.isEmpty ∨ s.head? = some '#' then some none
  else
    (sides? s).bind fun (name, v) =>
      let value := if v.head? = some '#' then some [] else value? env (.plain false) v
      value.map fun v => some (String.ofList name, String.ofList v)

/-- Adds a variable that is not there yet. -/
def define (env : Environment) (name value : String) : Environment :=
  if (env.lookup name).isSome then env else env ++ [(name, value)]

/-- Completes an environment by some lines, up to the first that cannot be read. -/
def complete (env : Environment) : List (Option (List Char)) → Environment
  | [] => env
  | none :: _ => env
  | some l :: ls =>
    match assignment? env l with
    | none => env
    | some none => complete env ls
    | some (some (name, value)) => complete (define env name value) ls

/-- A text without the mark of its byte order. -/
def dropMark : Bytes → Bytes
  | 0xEF :: 0xBB :: 0xBF :: r => r
  | s => s

/-- The environment completed by the file's text. -/
def apply (env : Environment) (text : Bytes) : Environment :=
  complete env (logicalLines none ((physicalLines (dropMark text)).map Utf8.decode?))

end CertRotation.Settings.VariableFile

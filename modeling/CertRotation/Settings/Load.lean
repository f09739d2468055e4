/-
The settings of a run: one file of the working directory, and the environment.

The file is called `config` with an ending that tells its format.  A file that
cannot be read as text counts as missing; one that does not parse is refused.
-/
import CertRotation.Document.Json
import CertRotation.Document.Toml
import CertRotation.Document.Yaml
import CertRotation.Files
import CertRotation.Settings.Reading

namespace CertRotation.Settings

open Text Document

/-- The name of the settings file without its ending. -/
def fileName : String := "config"

/-- The endings of the settings file with their formats, in order of precedence. -/
def formats : List (String × (List Char → Option Value)) :=
  [("toml", Toml.parse?), ("json", Json.parse?), ("yaml", Yaml.parse?), ("yml", Yaml.parse?)]

/-- The contents of the settings file and its format.  A file without an ending hides all
others and has no format itself. -/
def findFile? (files : FileTree) : Option (Bytes × (List Char → Option Value)) :=
  match files.read fileName with
  | .ok _ => none
  | .error _ =>
    formats.findSome? fun (ending, parse) =>
      (files.read (fileName ++ "." ++ ending)).toOption.map fun data => (data, parse)

/-- The document of the settings file; where there is none, it is an empty table. -/
def fileDocument (files : FileTree) : Converted Value :=
  match findFile? files with
  | none => .ok (.table [])
  | some (data, parse) =>
    match Utf8.decode? data with
    | none => .ok (.table [])
    | some text =>
      match parse text with
      | some doc => .ok doc
      | none => .error .fileParse

/-- Loads the settings of a run. -/
def load (files : FileTree) (env : Environment) : Converted Settings :=
  match fileDocument files with
  | .error e => .error e
  | .ok doc => ofDocument (ofLayers [layerOf doc, layerOfVariables env])

end CertRotation.Settings

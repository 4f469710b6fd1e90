import HeaderBidding.Codec.Reader
import HeaderBidding.Log
import HeaderBidding.Settings.Basic

/-!
# Loading settings

Settings are kept in a file. A file that is not there may be replaced by the defaults; one that
cannot be read is an error.
-/

namespace HeaderBidding

/-- What comes of reading a file. -/
abbrev FileRead := Except IoError String

/-- Whether there is no file to be read. -/
def FileRead.isAbsent : FileRead → Bool
  | .error .notFound | .error .notDirectory => true
  | _ => false

namespace Settings

/-- The settings in the file at a path. -/
def ofFile (path : String) (file : FileRead) : Except AdapterError Settings :=
  match file with
  | .error e => .error (.io e)
  | .ok text =>
    match codec.decode text with
    | .ok settings => .ok settings
    | .error fault => .error (.config ("cannot parse " ++ path ++ ": " ++ fault.messageIn text))

/-- The settings in the file at a path, if there is one. -/
def load (path : String) (file : FileRead) : Except AdapterError (Option Settings) :=
  if file.isAbsent then .ok none else (ofFile path file).map some

/-- The settings in the file at a path, or else the defaults. -/
def loadOrDefault (path : String) (file : FileRead) : Traced AdapterError Settings := do
  match ← Traced.silent (load path file) with
  | some settings => pure settings
  | none => do
    Traced.log (.defaultsUsed path)
    pure {}

end Settings

end HeaderBidding

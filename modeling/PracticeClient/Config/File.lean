import PracticeClient.Config.Basic
import PracticeClient.Environment.Basic
import PracticeClient.Storage.Store

namespace PracticeClient

inductive ConfigError where
  | noDirectory (kind : String)
  | unreadable (path : Path) (cause : FileError)
  | senseless (fault : Json.Fault) (text : String)
  | unwritable (cause : FileError)
  deriving DecidableEq, Repr

namespace ConfigError

def message : ConfigError → String
  | noDirectory kind => s!"Could not find {kind} directory"
  | unreadable path _ => s!"Failed to read config file {path.text}"
  | senseless _ _ => "Failed to parse config file"
  | unwritable cause => cause.message

def cause? : ConfigError → Option String
  | noDirectory _ => none
  | unreadable _ cause => some cause.message
  | senseless fault text => some (fault.message text)
  | unwritable _ => none

end ConfigError

namespace Config

def applicationName : String := "pws"

def place (kind : String) (directory? : Option Path) : Except ConfigError Path :=
  match directory? with
  | some directory => .ok (directory.child applicationName)
  | none => .error (.noDirectory kind)

def file (env : Environment) : Except ConfigError Path :=
  (place "config" env.configDirectory?).map (·.child "config.json")

def cacheDirectory (env : Environment) : Except ConfigError Path :=
  place "cache" env.cacheDirectory?

def sessionFile (env : Environment) : Except ConfigError Path :=
  (cacheDirectory env).map (·.child "session.json")

def decode (content : Bytes) (path : Path) : Except ConfigError Config :=
  match Text.decode? content with
  | none => .error (.unreadable path .notText)
  | some text =>
    match ofText text with
    | .ok config => .ok config
    | .error fault => .error (.senseless fault text)

def load (path : Path) : System (Except ConfigError Config) := do
  if ← System.file (.probe path) then
    match ← System.file (.read path) with
    | .error cause => pure (.error (.unreadable path cause))
    | .ok content => pure (decode content path)
  else pure (.ok .standard)

def save (config : Config) (path : Path) : System (Except ConfigError Unit) := do
  match ← FileStore.createParent path with
  | .error cause => pure (.error (.unwritable cause))
  | .ok () =>
    match ← System.file (.write path (Text.utf8 config.text)) with
    | .error cause => pure (.error (.unwritable cause))
    | .ok () => pure (.ok ())

def loadOwn (env : Environment) : System (Except ConfigError Config) :=
  match file env with
  | .error error => pure (.error error)
  | .ok path => load path

def saveOwn (config : Config) (env : Environment) : System (Except ConfigError Unit) :=
  match file env with
  | .error error => pure (.error error)
  | .ok path => config.save path

def openStore (config : Config) (env : Environment) : Except ConfigError Store :=
  match config.storage with
  | .file => (sessionFile env).map .file
  | .keyring => .ok (.keychain ⟨applicationName, []⟩)
  | .memory => .ok (.memory .empty)

end Config

end PracticeClient

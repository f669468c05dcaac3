import PracticeClient.Files.Path
import PracticeClient.Text.Utf8

namespace PracticeClient

structure Environment where
  settings : List (String × String)
  /-- The home of the account, if it has one. -/
  account : Option Path
  deriving DecidableEq, Repr

namespace Environment

def empty : Environment := ⟨[], none⟩

def get? (env : Environment) (name : String) : Option String :=
  env.settings.lookup name

def unset (env : Environment) (name : String) : Environment :=
  { env with settings := env.settings.filter (·.1 != name) }

def set (env : Environment) (name value : String) : Environment :=
  { env with settings := (name, value) :: (env.unset name).settings }

theorem get?_unset (env : Environment) (name other : String) :
    (env.unset name).get? other = if other = name then none else env.get? other := by
  obtain ⟨settings, account⟩ := env
  simp only [unset, get?]
  induction settings with
  | nil => simp
  | cons entry rest ih => simp only [List.filter_cons]; grind

theorem get?_set (env : Environment) (name value other : String) :
    (env.set name value).get? other = if other = name then some value else env.get? other := by
  have h := get?_unset env name other
  simp only [get?] at h ⊢
  simp only [set, List.lookup_cons]
  grind

def filled? (env : Environment) (name : String) : Option String :=
  match env.get? name with
  | some value => if value = "" then none else some value
  | none => none

/-! ## Blocks -/

def entry? (entry : Bytes) : Option (String × String) :=
  match Text.decode? entry with
  | none => none
  | some text =>
    match text.toList.dropWhile (· != '=') with
    | _ :: value => some (String.ofList (text.toList.takeWhile (· != '=')), String.ofList value)
    | [] => none

def ofBlock (block : Bytes) (account : Option Path) : Environment :=
  ⟨(block.splitOn 0).filterMap entry?, account⟩

/-! ## Directories -/

def home? (env : Environment) : Option Path :=
  match env.filled? "HOME" with
  | some home => some (Path.ofText home)
  | none => env.account

/-- The directory that a variable names. Only an absolute path counts; otherwise it is a directory
of the home, if there is one. -/
def directory? (env : Environment) (name fallback : String) : Option Path :=
  match ((env.get? name).map Path.ofText).filter (·.isAbsolute) with
  | some path => some path
  | none => env.home?.map (·.child fallback)

def configDirectory? (env : Environment) : Option Path :=
  env.directory? "XDG_CONFIG_HOME" ".config"

def cacheDirectory? (env : Environment) : Option Path :=
  env.directory? "XDG_CACHE_HOME" ".cache"

end Environment

end PracticeClient

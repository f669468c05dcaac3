import PracticeClient.Files.FileSystem
import PracticeClient.Program

namespace PracticeClient

inductive FileOp where
  | probe (path : Path)
  | read (path : Path)
  | write (path : Path) (content : Bytes)
  | createDirectories (path : Path)
  | rename (source destination : Path)
  | remove (path : Path)
  | touch (path : Path)
  deriving DecidableEq, Repr

namespace FileOp

abbrev Answer : FileOp → Type
  | probe _ => Bool
  | read _ => Except FileError Bytes
  | write _ _ => Except FileError Unit
  | createDirectories _ => Except FileError Unit
  | rename _ _ => Except FileError Unit
  | remove _ => Except FileError Unit
  | touch _ => Except FileError Unit

def settle (fs : FileSystem) : Except FileError FileSystem → Except FileError Unit × FileSystem
  | .ok changed => (.ok (), changed)
  | .error error => (.error error, fs)

def perform : Program.Handler FileOp Answer FileSystem
  | probe path, fs => (fs.exists? path, fs)
  | read path, fs => (fs.read path, fs)
  | write path content, fs => settle fs (fs.write path content)
  | createDirectories path, fs => fs.createDirectories path
  | rename source destination, fs => settle fs (fs.rename source destination)
  | remove path, fs => settle fs (fs.remove path)
  | touch path, fs => settle fs (fs.touch path)

def halfWritten (fs : FileSystem) (path : Path) (content : Bytes) : Option Nat → FileSystem
  | none => fs
  | some written => (settle fs (fs.write path (content.take written))).2

/-- An operation that meets a mishap. It changes nothing, unless it is a write that has begun. -/
def fail (mishap : Mishap) : Program.Handler FileOp Answer FileSystem
  | probe path, fs => (fs.exists? path, fs)
  | read _, fs => (.error mishap.error, fs)
  | write path content, fs => (.error mishap.error, halfWritten fs path content mishap.written)
  | createDirectories _, fs => (.error mishap.error, fs)
  | rename _ _, fs => (.error mishap.error, fs)
  | remove _, fs => (.error mishap.error, fs)
  | touch _, fs => (.error mishap.error, fs)

def isProbe : FileOp → Bool
  | probe _ => true
  | _ => false

def handle : Program.Handler FileOp Answer FileSystem := fun op fs =>
  if op.isProbe then perform op fs
  else match fs.mishaps with
    | [] => perform op fs
    | none :: rest => perform op { fs with mishaps := rest }
    | some mishap :: rest => fail mishap op { fs with mishaps := rest }

end FileOp

end PracticeClient

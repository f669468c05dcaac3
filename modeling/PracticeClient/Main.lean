import PracticeClient.Cli.Host

/-!
# The program

Runs the command line on a real file system and a real terminal. There is no network, no keychain
and no password prompt, only variables tell where the home is, and log entries go nowhere.
-/

namespace PracticeClient.Cli.RealHost

open scoped Idna

def fileError : IO.Error → FileError
  | .noFileOrDirectory _ _ _ => .notFound
  | .alreadyExists _ _ _ => .alreadyExists
  | .resourceBusy _ _ => .busy
  | .inappropriateType _ code _ => if code = 20 then .notDirectory else .isDirectory
  | .invalidArgument _ _ _ => .zeroInName
  | _ => .denied

def attempt {α : Type} (action : IO α) : IO (Except FileError α) := do
  try
    let result ← action
    pure (.ok result)
  catch error => pure (.error (fileError error))

def bytesOf (content : Bytes) : ByteArray :=
  ⟨content.toArray⟩

def performFile : (op : FileOp) → IO op.Answer
  | .probe path => do
    match ← attempt (IO.FS.Handle.mk path.text .read) with
    | .ok _ => pure true
    | .error error => pure (error != .notFound && error != .notDirectory)
  | .read path => attempt do
    let content ← IO.FS.readBinFile path.text
    pure content.toList
  | .write path content => attempt (IO.FS.writeBinFile path.text (bytesOf content))
  | .createDirectories path =>
    if path.isEmpty then pure (.ok ()) else attempt (IO.FS.createDirAll path.text)
  | .rename source destination => attempt (IO.FS.rename source.text destination.text)
  | .remove path => attempt (IO.FS.removeFile path.text)
  | .touch path => attempt do
    let _ ← IO.FS.Handle.mk path.text .append
    pure ()

def performSystem : (op : SystemOp) → IO op.Answer
  | .file op => performFile op
  | .keychain op => pure (op.fail .noAccess)
  | .log _ => pure ()
  | .announce _ => pure ()

def perform {α : Type} : Console α → IO (Option α)
  | .done result => pure (some result)
  | .step (.system op) next => do perform (next (← performSystem op))
  | .step (.startLog _) next => perform (next ())
  | .step (.send _) next => perform (next none)
  | .step (.print text) next => do
    let output ← IO.getStdout
    output.putStr text
    output.flush
    perform (next ())
  | .step (.report text) next => do
    (← IO.getStderr).putStr text
    perform (next ())
  | .step .readLine next => do
    match ← attempt (do (← IO.getStdin).getLine) with
    | .ok line => perform (next (.ok line))
    | .error _ => perform (next (.error .notText))
  | .step (.askPassword _) next => perform (next (.error .noTerminal))
  | .step .crash _ => pure none

def environment : IO Environment := do
  match ← attempt (IO.FS.readBinFile "/proc/self/environ") with
  | .ok block => pure (Environment.ofBlock block.toList none)
  | .error _ => pure .empty

def launch (arguments : List String) : IO UInt32 := do
  let status ← perform (run ⟨arguments, ← environment, Path.ofText (← IO.currentDir).toString⟩)
  pure (Host.exitCode status).toUInt32

end PracticeClient.Cli.RealHost

def main (arguments : List String) : IO UInt32 :=
  PracticeClient.Cli.RealHost.launch arguments

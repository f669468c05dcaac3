import PracticeClient.Files.Operation
import PracticeClient.Journal
import PracticeClient.Keychain

namespace PracticeClient

inductive StoreCall where
  | get (key : String)
  | set (key value : String)
  | remove (key : String)
  | setMany (entries : List (String × String))
  | removeMany (keys : List String)
  deriving DecidableEq, Repr

abbrev StoreCall.Answer : StoreCall → Type
  | .get _ => Option String
  | .set _ _ => Unit
  | .remove _ => Unit
  | .setMany _ => Unit
  | .removeMany _ => Unit

inductive SystemOp where
  | file (op : FileOp)
  | keychain (op : KeychainOp)
  | log (entry : LogEntry)
  | announce (call : StoreCall)

abbrev SystemOp.Answer : SystemOp → Type
  | .file op => op.Answer
  | .keychain op => op.Answer
  | .log _ => Unit
  | .announce _ => Unit

abbrev System (α : Type) : Type := Program SystemOp SystemOp.Answer α

namespace System

def file (op : FileOp) : System op.Answer := Program.ask (SystemOp.file op)

def keychain (op : KeychainOp) : System op.Answer := Program.ask (SystemOp.keychain op)

def log (entry : LogEntry) : System Unit := Program.ask (SystemOp.log entry)

def announce (call : StoreCall) : System Unit := Program.ask (SystemOp.announce call)

end System

inductive SystemEvent where
  | logged (entry : LogEntry)
  | announced (call : StoreCall)
  | asked (op : KeychainOp)
  deriving DecidableEq, Repr

structure Machine where
  files : FileSystem
  keychain : Keychain
  deriving Repr

namespace Machine

def handle : Program.Handler SystemOp SystemOp.Answer (Machine × List SystemEvent)
  | .file op, (machine, events) =>
    let (answer, files) := FileOp.handle op machine.files
    (answer, ({ machine with files }, events))
  | .keychain op, (machine, events) =>
    let (answer, keychain) := Keychain.handle op machine.keychain
    (answer, ({ machine with keychain }, events ++ [.asked op]))
  | .log entry, (machine, events) => ((), (machine, events ++ [.logged entry]))
  | .announce call, (machine, events) => ((), (machine, events ++ [.announced call]))

end Machine

end PracticeClient

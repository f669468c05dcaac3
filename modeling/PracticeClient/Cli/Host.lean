import PracticeClient.Cli.Run
import PracticeClient.Http.Server

/-!
# A simulated host

A host without a terminal: it has files and a keychain, a network with one server, some input, and
keeps what is written to its outputs. Entries of the log go to the error output, and to a file once
the run is over.
-/

namespace PracticeClient.Cli

variable [Idna]

inductive Remark where
  | text (text : String)
  | entry (entry : LogEntry)
  deriving DecidableEq, Repr

structure Recorder where
  admits : String → LogEntry → Bool
  /-- The lines of some entries, with their times and whatever libraries have to say. -/
  lines : List LogEntry → Bytes

def Recorder.passes (recorder : Recorder) : Option String → LogEntry → Bool
  | some filter, entry => recorder.admits filter entry
  | none, entry => entry.level.isGrave

structure Log where
  setting : LogSetting
  entries : List LogEntry
  deriving DecidableEq, Repr

structure Host where
  machine : Machine
  server : Http.Server
  input : Bytes
  output : String
  remarks : List Remark
  recorder : Recorder
  log : Option Log

namespace Host

def takeLine : Bytes → Bytes × Bytes
  | [] => ([], [])
  | byte :: rest =>
    if byte = 0x0A then ([byte], rest)
    else ((byte :: (takeLine rest).1), (takeLine rest).2)

def decodeLine (line : Bytes) : Except FileError String :=
  match Text.decode? line with
  | some text => .ok text
  | none => .error .notText

/-! ## The log -/

def note (host : Host) (entry : LogEntry) : Host :=
  match host.log with
  | some log =>
    if host.recorder.passes log.setting.filter entry then
      { host with
        remarks := host.remarks ++ [.entry entry]
        log := some { log with entries := log.entries ++ [entry] } }
    else host
  | none => host

def hear (host : Host) : SystemEvent → Host
  | .logged entry => host.note entry
  | .announced _ => host
  | .asked _ => host

/-- Ends the log. By now all of it is in its file. -/
def close (host : Host) : Host :=
  match host.log with
  | some ⟨⟨_, some path⟩, entries⟩ =>
    let files := host.machine.files.append path (host.recorder.lines entries)
    { host with machine := { host.machine with files }, log := none }
  | _ => { host with log := none }

/-! ## Runs -/

def execute {α : Type} : Console α → Host → Option α × Host
  | .done result, host => (some result, host)
  | .step (.system op) next, host =>
    let (answer, machine, events) := Machine.handle op (host.machine, [])
    execute (next answer) (events.foldl hear { host with machine })
  | .step (.startLog setting) next, host =>
    execute (next ()) { host with log := some ⟨setting, []⟩ }
  | .step (.send request) next, host =>
    let (answer, server) := host.server.meet request
    execute (next answer) { host with server }
  | .step (.print text) next, host => execute (next ()) { host with output := host.output ++ text }
  | .step (.report text) next, host =>
    execute (next ()) { host with remarks := host.remarks ++ [.text text] }
  | .step .readLine next, host =>
    let (line, input) := takeLine host.input
    execute (next (decodeLine line)) { host with input }
  | .step (.askPassword _) next, host => execute (next (.error .noTerminal)) host
  | .step .crash _, host => (none, host)

def crashCode : UInt8 := 101

def exitCode : Option ExitStatus → UInt8
  | some status => status.code
  | none => crashCode

def run (invocation : Invocation) (host : Host) : UInt8 × Host :=
  let (status, host) := execute (Cli.run invocation) { host with log := none }
  (exitCode status, host.close)

def ownText? : Remark → Option String
  | .text text => some text
  | .entry _ => none

/-- What a run itself has to say on the error output, without its log. -/
def errors (host : Host) : String :=
  String.join (host.remarks.filterMap ownText?)

end Host

end PracticeClient.Cli

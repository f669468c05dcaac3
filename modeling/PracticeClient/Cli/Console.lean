import PracticeClient.Client.Effect
import PracticeClient.Http.Transport
import PracticeClient.Storage.Store

namespace PracticeClient.Cli

variable [Idna]

inductive TerminalError where
  | noTerminal
  deriving DecidableEq, Repr

def TerminalError.message : TerminalError → String
  | noTerminal => "No such device or address (os error 6)"

structure LogSetting where
  filter : Option String
  file : Option Path
  deriving DecidableEq, Repr

inductive ConsoleOp where
  | system (op : SystemOp)
  | startLog (setting : LogSetting)
  | send (request : Http.Request)
  | print (text : String)
  | report (text : String)
  | readLine
  | askPassword (question : String)
  | crash

abbrev ConsoleOp.Answer : ConsoleOp → Type
  | .system op => op.Answer
  | .startLog _ => Unit
  | .send _ => Option Http.Response
  | .print _ => Unit
  | .report _ => Unit
  | .readLine => Except FileError String
  | .askPassword _ => Except TerminalError String
  | .crash => Empty

abbrev Console (α : Type) : Type := Program ConsoleOp ConsoleOp.Answer α

namespace Console

def system (op : SystemOp) : Console op.Answer := Program.ask (ConsoleOp.system op)

def startLog (setting : LogSetting) : Console Unit := Program.ask (ConsoleOp.startLog setting)

def print (text : String) : Console Unit := Program.ask (ConsoleOp.print text)

def report (text : String) : Console Unit := Program.ask (ConsoleOp.report text)

def readLine : Console (Except FileError String) := Program.ask ConsoleOp.readLine

def askPassword (question : String) : Console (Except TerminalError String) :=
  Program.ask (ConsoleOp.askPassword question)

def crash {α : Type} : Console α := Program.step ConsoleOp.crash Empty.elim

def log (entry : LogEntry) : Console Unit := system (.log entry)

def ofSystem {α : Type} (program : System α) : Console α := program.answerWith system

def network : (op : Http.Op) → Console op.Answer
  | .send request => Program.ask (ConsoleOp.send request)
  | .log entry => log entry

def ofExchange {α : Type} (exchange : Http.Exchange α) : Console α := exchange.answerWith network

def announce (notification : Notification) : Console Unit :=
  let line := notification.terminalLine ++ "\n"
  match notification.severity with
  | .success => print line
  | .danger => report line

/-! ## The client on the command line -/

structure Progress where
  store : Store
  arrived : Bool

def perform (transport : Http.Transport) :
    (effect : Effect) → Progress → Console (effect.Answer × Progress)
  | .store call, progress => do
    let (answer, store) ← ofSystem (progress.store.perform call)
    pure (answer, { progress with store })
  | .post endpoint body, progress => do
    let answer ← ofExchange (transport.post endpoint body)
    pure (answer, progress)
  | .notify notification, progress => do
    announce notification
    pure ((), progress)
  | .log entry, progress => do
    log entry
    pure ((), progress)
  | .complete, progress => do
    print "Submissions loaded\n"
    pure ((), { progress with arrived := true })
  | .abort, _ => crash

def ofClient {α : Type} (transport : Http.Transport) (store : Store) (client : Client α) :
    Console (α × Progress) :=
  client.expand (perform transport) ⟨store, false⟩

end Console

end PracticeClient.Cli

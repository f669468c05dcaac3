import PracticeClient.Http.Error
import PracticeClient.Json.Value
import PracticeClient.Notification
import PracticeClient.Storage.System

namespace PracticeClient

inductive Effect where
  | store (call : StoreCall)
  | post (endpoint : String) (body : Json.Value)
  | notify (notification : Notification)
  | log (entry : LogEntry)
  | complete
  | abort

abbrev Effect.Answer : Effect → Type
  | .store call => call.Answer
  | .post _ _ => Except Http.TransportError Json.Value
  | .notify _ => Unit
  | .log _ => Unit
  | .complete => Unit
  | .abort => Empty

abbrev Client (α : Type) : Type := Program Effect Effect.Answer α

namespace Client

def store (call : StoreCall) : Client call.Answer := Program.ask (Effect.store call)

def post (endpoint : String) (body : Json.Value) :
    Client (Except Http.TransportError Json.Value) :=
  Program.ask (Effect.post endpoint body)

def notify (severity : Severity) (text : String) : Client Unit :=
  Program.ask (Effect.notify ⟨severity, text⟩)

def log (entry : LogEntry) : Client Unit := Program.ask (Effect.log entry)

def complete : Client Unit := Program.ask Effect.complete

def abort {α : Type} : Client α := Program.step Effect.abort Empty.elim

end Client

end PracticeClient

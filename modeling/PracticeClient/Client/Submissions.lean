import PracticeClient.Client.Effect

namespace PracticeClient.Submissions

def endpoint : String := "submissions"

def connectionError : String := "Connection error"

def conclude (next : Client Unit) : Except Http.TransportError Json.Value → Client Unit
  | .ok _ => do
    Client.log (.debug "Submissions loaded" [])
    Client.complete
    next
  | .error error => do
    Client.log (.error "Failed to load submissions" [("error", error.message)])
    Client.notify .danger connectionError

def load (next : Client Unit) : Client Unit := do
  let answer ← Client.post endpoint Json.Value.empty
  conclude next answer

end PracticeClient.Submissions

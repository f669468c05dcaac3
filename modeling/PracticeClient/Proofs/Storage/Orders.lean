import PracticeClient.Client.Session
import PracticeClient.Storage.Store

namespace PracticeClient

/-- A client with a store and nobody else to turn to: it stops where it would post. -/
def Client.over {α : Type} : Client α → Store → System (Option α × Store)
  | .done result, store => pure (some result, store)
  | .step (.store call) next, store =>
    (store.perform call).bind fun (answer, store) => Client.over (next answer) store
  | .step (.log entry) next, store =>
    (System.log entry).bind fun _ => Client.over (next ()) store
  | .step (.notify _) next, store => Client.over (next ()) store
  | .step .complete next, store => Client.over (next ()) store
  | .step (.post _ _) _, store => pure (none, store)
  | .step .abort _, store => pure (none, store)

inductive Order where
  | establish (token username : String)
  | clear
  | askAuthenticated
  | askUsername
  deriving DecidableEq, Repr

namespace Order

def client : Order → Client Unit
  | establish token username => Session.establish token username
  | clear => Session.clear
  | askAuthenticated => Session.isAuthenticated >>= fun _ => pure ()
  | askUsername => Session.currentUsername >>= fun _ => pure ()

def program (order : Order) (store : Store) : System (Option Unit × Store) :=
  order.client.over store

end Order

end PracticeClient

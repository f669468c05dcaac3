import PracticeClient.Http.Exchange

namespace PracticeClient.Http

structure Reply where
  status : Status
  headers : List (String × String)
  body : Bytes
  truncated : Bool
  deriving DecidableEq, Repr

def Reply.response? (reply : Reply) : Option Response :=
  if final : reply.status.isInformational = false then
    if bodied : reply.status.isBodiless = false then
      some {
        status := reply.status
        headers := reply.headers
        body := reply.body
        truncated := reply.truncated
        final
        bodiless := by simp [bodied] }
    else
      some {
        status := reply.status
        headers := reply.headers
        body := []
        truncated := false
        final
        bodiless := fun _ => ⟨rfl, rfl⟩ }
  else none

inductive Reaction where
  | respond (reply : Reply)
  | close
  | hang
  deriving DecidableEq, Repr

/-- A server, and whether a request reaches it over plain and over secure connections. -/
structure Server where
  plain : Bool
  secure : Bool
  script : List Reaction
  received : List Request
  deriving Repr

namespace Server

/-- A request as a server gets it: it is not told the fragment, nor credentials in the URL. -/
def seen (request : Request) : Request :=
  { request with url := { request.url with
      fragment := none
      authority := request.url.authority.map fun authority =>
        { authority with username := [], password := none } } }

/-- What comes back for one request, and what is left of the script. Without a script left the
connection is closed. -/
def react : List Reaction → Option Response × List Reaction
  | [] => (none, [])
  | .close :: rest => (none, rest)
  | .hang :: rest => (none, rest)
  | .respond reply :: rest =>
    match reply.response? with
    | some response => (some response, rest)
    | none => react rest

def isReached (server : Server) (url : Url) : Bool :=
  url.scheme == "http".toList && server.plain || url.scheme == "https".toList && server.secure

def meet (request : Request) (server : Server) : Option Response × Server :=
  if server.isReached request.url then
    let (response, script) := react server.script
    (response, { server with script, received := server.received ++ [seen request] })
  else (none, server)

def handle : Program.Handler Op Op.Answer (Server × List LogEntry)
  | .send request, (server, entries) =>
    let (response, server) := server.meet request
    (response, (server, entries))
  | .log entry, (server, entries) => ((), (server, entries ++ [entry]))

end Server

end PracticeClient.Http

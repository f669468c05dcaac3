import PracticeClient.Http.Exchange
import PracticeClient.Json.Decoding
import PracticeClient.Text.Digits

/-!
# Posting to the server

The server is known by a base URL, and each endpoint by its name relative to it. The body of a post
and of its answer is JSON. Only a complete response with a success status counts as an answer.
-/

namespace PracticeClient.Http

variable [Idna]

structure Transport where
  base : Url
  deriving DecidableEq, Repr

structure AddressError where
  address : String
  cause : Url.Error
  deriving DecidableEq, Repr

def AddressError.message (error : AddressError) : String :=
  s!"Invalid server URL: {error.address}"

namespace Transport

def withSlash (address : String) : String :=
  if address.toList.getLast? = some '/' then address else address ++ "/"

def ofAddress (address : String) : Except AddressError Transport :=
  match Url.parse (withSlash address) with
  | .ok base => .ok ⟨base⟩
  | .error cause => .error ⟨address, cause⟩

def endpointUrl (transport : Transport) (endpoint : String) : Except TransportError Url :=
  match transport.base.join endpoint with
  | .ok url => .ok url
  | .error cause => .error (.invalidEndpoint s!"{endpoint}: {cause.message}")

/-! ## Credentials in a URL -/

def percentDecode? (text : List Char) : Option String :=
  Text.decode? (Url.decode text)

def authorization? (url : Url) : Option String :=
  match url.authority with
  | none => none
  | some authority =>
    match percentDecode? authority.username with
    | none => none
    | some username =>
      let password := authority.password.bind percentDecode?
      if username.isEmpty && password.isNone then none
      else
        let pair := Text.utf8 username ++ Text.utf8 ":" ++ Text.utf8 (password.getD "")
        some ("Basic " ++ String.ofList (Text.base64 pair))

def withoutCredentials (url : Url) : Url :=
  { url with authority := url.authority.map fun authority =>
      { authority with username := [], password := none } }

def request (url : Url) (body : Json.Value) : Request :=
  let authorization := authorization? url
  { method := .post
    url := if authorization.isSome then withoutCredentials url else url
    authorization
    body := some body.compact }

/-! ## Posting -/

def decodeAnswer (endpoint : String) (response : Response) : Except TransportError Json.Value :=
  if response.status.isSuccess then
    if response.truncated then .error (.network .brokenBody)
    else
      let text := Text.decodeLossy response.body
      match Json.parse text with
      | .ok value => .ok value
      | .error fault =>
        .error (.invalidResponse s!"Failed to parse JSON from {endpoint}: {fault.message text}")
  else
    let body := if response.truncated then "" else Text.decodeLossy response.body
    .error (.ofStatus response.status body)

def postEntry (url : Url) : LogEntry :=
  .debug "POST" [("url", url.text)]

def post (transport : Transport) (endpoint : String) (body : Json.Value) :
    Exchange (Except TransportError Json.Value) := do
  match transport.endpointUrl endpoint with
  | .error error => pure (.error error)
  | .ok url =>
    log (postEntry url)
    let request := request url body
    if isSendable request.url then
      match ← exchange mostRedirects request with
      | .error failure => pure (.error (.network failure))
      | .ok response => pure (decodeAnswer endpoint response)
    else pure (.error (.network (.unsupported request.url.text)))

end Transport

end PracticeClient.Http

import PracticeClient.Http.Error
import PracticeClient.Journal
import PracticeClient.Program
import PracticeClient.Url.Parser

/-!
# Requests and responses

One post may take several requests: a response that points elsewhere is followed, at most ten times.
Whoever carries a request either brings back a response or nothing, for whatever reason.
-/

namespace PracticeClient.Http

variable [Idna]

inductive Method where
  | get
  | post
  deriving DecidableEq, Repr

structure Request where
  method : Method
  url : Url
  authorization : Option String
  body : Option String
  deriving DecidableEq, Repr

/-- A response that no other is to follow. A truncated one ends before the length that it
announces; some have no body, whatever they announce. -/
structure Response where
  status : Status
  headers : List (String × String)
  body : Bytes
  truncated : Bool
  final : status.isInformational = false
  bodiless : status.isBodiless = true → body = [] ∧ truncated = false
  deriving DecidableEq, Repr

def Response.header? (response : Response) (name : String) : Option String :=
  (response.headers.find? fun header => header.1.toLower == name).map Prod.snd

inductive Op where
  | send (request : Request)
  | log (entry : LogEntry)

abbrev Op.Answer : Op → Type
  | .send _ => Option Response
  | .log _ => Unit

abbrev Exchange (α : Type) : Type := Program Op Op.Answer α

def send (request : Request) : Exchange (Option Response) := Program.ask (Op.send request)

def log (entry : LogEntry) : Exchange Unit := Program.ask (Op.log entry)

/-! ## Which URLs can be asked -/

def isWeb (url : Url) : Bool :=
  url.scheme == "http".toList || url.scheme == "https".toList

/-- Characters that the name of a host may have in a URL and not in a URI. The host of a web URL
never has a percent sign. -/
def unsendable : List Char := ['"', '%', '\x60', '\x7b', '\x7d']

def hasSendableHost (url : Url) : Bool :=
  match url.host? with
  | some (.name name) => !name.any (· ∈ unsendable)
  | some _ => true
  | none => false

def isPlainUriChar (c : Char) : Bool :=
  c.isAlphanum || c ∈ "-._~!$&'()*+,;=".toList

structure AuthorityDraft where
  colons : Nat
  opened : Bool
  closed : Bool
  percent : Bool

def AuthorityDraft.next? (draft : AuthorityDraft) (c : Char) : Option AuthorityDraft :=
  if c == ':' then
    if draft.colons < 8 then some { draft with colons := draft.colons + 1 } else none
  else if c == '[' then
    if draft.opened || draft.percent then none else some { draft with opened := true }
  else if c == ']' then
    if draft.closed || !draft.opened then none
    else some { draft with colons := 0, closed := true, percent := false }
  else if c == '@' then some { draft with colons := 0, percent := false }
  else if c == '%' then some { draft with percent := true }
  else if isPlainUriChar c then some draft
  else none

def isAuthority (text : List Char) : Bool :=
  text.getLast? != some '@' &&
    match text.foldlM AuthorityDraft.next? ⟨0, false, false, false⟩ with
    | some draft => draft.opened == draft.closed && draft.colons ≤ 1 && !draft.percent
    | none => false

def longestUri : Nat := 65534

def longestScheme : Nat := 64

/-- Whether the text of a URL is a URI. Where nothing but a colon follows the scheme, the whole text
has to pass for an authority. -/
def isUri (url : Url) : Bool :=
  url.print.length ≤ longestUri &&
    (hasSendableHost url && url.scheme.length ≤ longestScheme ||
      url.authority.isNone && isAuthority url.print)

def isSendable (url : Url) : Bool :=
  isWeb url && isUri url

/-! ## Redirects -/

def mostRedirects : Nat := 10

def hostAndPort (url : Url) : Option Url.Host × Option Nat :=
  (url.host?, (url.authority.bind (·.port)).or (Url.usualPort? url.scheme))

def keptAuthorization (request : Request) (target : Url) : Option String :=
  if hostAndPort request.url = hostAndPort target then request.authorization else none

def redirect? (request : Request) (response : Response) : Option Request :=
  let moved := response.status.code ∈ [301, 302, 303]
  let repeated := response.status.code ∈ [307, 308]
  if moved ∨ repeated then
    match response.header? "location" with
    | none => none
    | some location =>
      match request.url.join location with
      | .error _ => none
      | .ok target =>
        if isUri target then
          some {
            method := if moved then .get else request.method
            url := target
            authorization := keptAuthorization request target
            body := if moved then none else request.body }
        else none
  else none

def exchange : (redirects : Nat) → Request → Exchange (Except NetworkFailure Response)
  | redirects, request => do
    match ← send request with
    | none => pure (.error (.unanswered request.url.text))
    | some response =>
      match redirect? request response with
      | none => pure (.ok response)
      | some next =>
        match redirects with
        | 0 => pure (.error (.tooManyRedirects request.url.text))
        | redirects + 1 =>
          if isWeb next.url then exchange redirects next
          else pure (.error (.unsupported next.url.text))

end PracticeClient.Http

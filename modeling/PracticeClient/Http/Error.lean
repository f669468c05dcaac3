import PracticeClient.Http.Status
import PracticeClient.Text.Excerpt

namespace PracticeClient.Http

inductive NetworkFailure where
  | unanswered (url : String)
  | brokenBody
  | unsupported (url : String)
  | tooManyRedirects (url : String)
  deriving DecidableEq, Repr

def NetworkFailure.message : NetworkFailure → String
  | unanswered url => s!"error sending request for url ({url})"
  | brokenBody => "error decoding response body"
  | unsupported url => s!"builder error for url ({url})"
  | tooManyRedirects url => s!"error following redirect for url ({url})"

inductive TransportError where
  | unauthorized (body : String)
  | accessDenied (body : String)
  | notFound (body : String)
  | rateLimited
  | serverError (body : String)
  | network (failure : NetworkFailure)
  | invalidResponse (detail : String)
  | invalidEndpoint (detail : String)
  deriving DecidableEq, Repr

namespace TransportError

def message : TransportError → String
  | unauthorized body => s!"Unauthorized: {body}"
  | accessDenied body => s!"Access denied: {body}"
  | notFound body => s!"Endpoint not found: {body}"
  | rateLimited => "Rate limited - please wait before retrying"
  | serverError body => s!"Server error: {body}"
  | network failure => s!"Network error: {failure.message}"
  | invalidResponse detail => s!"Invalid response: {detail}"
  | invalidEndpoint detail => s!"Invalid endpoint URL: {detail}"

def ofStatus (status : Status) (body : String) : TransportError :=
  let excerpt := Text.excerpt body
  if status.code = 401 then unauthorized excerpt
  else if status.code = 403 then accessDenied excerpt
  else if status.code = 404 then notFound excerpt
  else if status.code = 429 then rateLimited
  else if 500 ≤ status.code ∧ status.code ≤ 599 then serverError excerpt
  else invalidResponse s!"Status {status.describe}: {excerpt}"

end TransportError

end PracticeClient.Http

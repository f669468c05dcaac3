import PracticeClient.Url.Host

namespace PracticeClient

namespace Url

structure Authority where
  username : List Char
  password : Option (List Char)
  host : Host
  port : Option Nat
  deriving DecidableEq, Repr

inductive Path where
  | rootless (text : List Char)
  | segments (segments : List (List Char))
  deriving DecidableEq, Repr

end Url

structure Url where
  scheme : List Char
  authority : Option Url.Authority
  path : Url.Path
  query : Option (List Char)
  fragment : Option (List Char)
  deriving DecidableEq, Repr

namespace Url

inductive Family where
  | web
  | file
  | other
  deriving DecidableEq, Repr

/-- The schemes whose URLs name a host that is looked up, with their usual ports. -/
def usualPorts : List (List Char × Nat) :=
  [("http".toList, 80), ("https".toList, 443), ("ws".toList, 80), ("wss".toList, 443),
   ("ftp".toList, 21)]

def usualPort? (scheme : List Char) : Option Nat :=
  usualPorts.lookup scheme

def Family.ofScheme (scheme : List Char) : Family :=
  if (usualPort? scheme).isSome then .web
  else if scheme = "file".toList then .file
  else .other

def Family.isSpecial : Family → Bool
  | .web | .file => true
  | .other => false

def hasCredentials (authority : Authority) : Bool :=
  !authority.username.isEmpty || authority.password.isSome

def Authority.print (authority : Authority) : List Char :=
  let password := match authority.password with
    | some password => ':' :: password
    | none => []
  let user := if hasCredentials authority then authority.username ++ password ++ ['@'] else []
  let port := match authority.port with
    | some port => ':' :: Nat.toDigits 10 port
    | none => []
  user ++ authority.host.print ++ port

def Path.print : Path → List Char
  | .rootless text => text
  | .segments parts => parts.flatMap fun part => '/' :: part

/-- Keeps a path that begins with two slashes apart from an authority. -/
def guard (authority : Option Authority) (path : Path) : List Char :=
  match authority, path with
  | none, .segments ([] :: _ :: _) => ['/', '.']
  | _, _ => []

def print (url : Url) : List Char :=
  let authority := match url.authority with
    | some authority => '/' :: '/' :: authority.print
    | none => []
  let query := match url.query with
    | some query => '?' :: query
    | none => []
  let fragment := match url.fragment with
    | some fragment => '#' :: fragment
    | none => []
  url.scheme ++ ':' :: authority ++ guard url.authority url.path ++ url.path.print ++ query ++
    fragment

def text (url : Url) : String :=
  String.ofList url.print

def host? (url : Url) : Option Host :=
  match url.authority with
  | some authority => if authority.host.isEmpty then none else some authority.host
  | none => none

end Url

end PracticeClient

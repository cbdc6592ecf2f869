/-
**URLs.**

A URL has a scheme, an authority unless it has none, a path, and perhaps a query and a fragment.
The path is a list of segments, or one opaque text that nothing can be resolved against.

* `Url`: the parts, each as it is written;
* `Url.text`: the whole URL;
* `Url.withoutFragment`: what is sent to a server.
-/

import LoadTest.Url.Host

namespace LoadTest

/-- User, host and port of a URL. -/
structure Authority where
  user : List Char
  password : List Char
  host : Host
  port : Option Nat
deriving DecidableEq, Inhabited

/-- The path of a URL. -/
inductive UrlPath where
  | segments (segments : List (List Char))
  | whole (text : List Char)
deriving DecidableEq, Inhabited

/-- A URL by its parts. -/
structure Url where
  scheme : List Char
  authority : Option Authority
  path : UrlPath
  query : Option (List Char)
  fragment : Option (List Char)
deriving DecidableEq, Inhabited

/-- Rules that go with a scheme. -/
inductive SchemeKind where
  /-- `http` and its like: an authority is needed and a backslash is a slash -/
  | web
  | file
  | other
deriving DecidableEq

namespace Url

/-- The port that a scheme uses if none is written. -/
def defaultPort (scheme : List Char) : Option Nat :=
  if scheme = ['h', 't', 't', 'p'] ∨ scheme = ['w', 's'] then some 80
  else if scheme = ['h', 't', 't', 'p', 's'] ∨ scheme = ['w', 's', 's'] then some 443
  else if scheme = ['f', 't', 'p'] then some 21
  else none

/-- The rules of a scheme. -/
def kindOf (scheme : List Char) : SchemeKind :=
  if (defaultPort scheme).isSome then .web
  else if scheme = ['f', 'i', 'l', 'e'] then .file
  else .other

/-- Whether nothing can be resolved against the URL. -/
def isOpaque (url : Url) : Bool :=
  match url.path with
  | .whole _ => true
  | .segments _ => false

/-- The authority as it is written. -/
def authorityText (authority : Authority) : List Char :=
  let password := if authority.password.isEmpty then [] else ':' :: authority.password
  let user := authority.user ++ password
  (if user.isEmpty then [] else user ++ ['@']) ++ authority.host.text ++
    (match authority.port with
      | some port => ':' :: Nat.toDigits 10 port
      | none => [])

/-- The path as it is written. -/
def pathText : UrlPath → List Char
  | .segments segments => segments.flatMap ('/' :: ·)
  | .whole text => text

/-- A path that would look like an authority has a dot before it. -/
def beforePath (url : Url) : List Char :=
  match url.authority with
  | some authority => '/' :: '/' :: authorityText authority
  | none =>
    match pathText url.path with
    | '/' :: '/' :: _ => if url.isOpaque then [] else ['/', '.']
    | _ => []

/-- A part behind its mark, if there is one. -/
def marked (mark : Char) : Option (List Char) → List Char
  | some text => mark :: text
  | none => []

/-- **The URL as it is written.** -/
def text (url : Url) : String :=
  String.ofList (url.scheme ++ ':' :: url.beforePath ++ pathText url.path ++
    marked '?' url.query ++ marked '#' url.fragment)

/-- The URL without its fragment. -/
def withoutFragment (url : Url) : Url := { url with fragment := none }

end Url

end LoadTest

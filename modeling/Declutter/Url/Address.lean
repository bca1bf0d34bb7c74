import Declutter.Text.Ascii

namespace Declutter

inductive Scheme
  | http
  | https
deriving DecidableEq, Repr

namespace Scheme

/-- The scheme with the two slashes behind it. -/
def opening : Scheme → Text
  | .http => "http://".toList
  | .https => "https://".toList

/-- The scheme of a page URL, in any letter case. -/
def of? (url : Text) : Option Scheme :=
  if (Text.afterIgnoringCase? (opening .https) url).isSome then some .https
  else if (Text.afterIgnoringCase? (opening .http) url).isSome then some .http
  else none

end Scheme

/-- A page URL cut around its host: `opening ++ userinfo ++ host ++ rest`. -/
structure Address where
  scheme : Scheme
  opening : Text
  userinfo : Text
  host : Text
  rest : Text
deriving DecidableEq, Repr

namespace Address

/-- The characters that end the authority of a URL. -/
def endsAuthority (c : Char) : Bool :=
  c == '/' || c == '?' || c == '#'

/-- The host lies after the last `@` of the authority and before the next colon. -/
def of? (url : Text) : Option Address :=
  match Scheme.of? url with
  | none => none
  | some scheme =>
    let length := scheme.opening.length
    let afterScheme := url.drop length
    let authority := afterScheme.takeWhile fun c => !endsAuthority c
    let fromHost := Text.afterLast (· == '@') authority
    let userinfoLength := authority.length - fromHost.length
    let host := fromHost.takeWhile (· != ':')
    some {
      scheme
      opening := url.take length
      userinfo := afterScheme.take userinfoLength
      host
      rest := afterScheme.drop (userinfoLength + host.length) }

def toText (a : Address) : Text :=
  a.opening ++ a.userinfo ++ a.host ++ a.rest

/-- Where the host lies, in bytes. -/
def hostRange (a : Address) : Nat × Nat :=
  let start := Text.byteLength a.opening + Text.byteLength a.userinfo
  (start, start + Text.byteLength a.host)

def wwwLabel : Text := "www.".toList

/-- The host with `www.` taken off, or put on where that would leave nothing or none is there. -/
def toggledHost (host : Text) : Text :=
  match Text.afterIgnoringCase? wwwLabel host with
  | some (c :: rest) => c :: rest
  | _ => wwwLabel ++ host

/-- The same page under the other form of its host. -/
def wwwVariant? (a : Address) : Option Address :=
  if a.host.isEmpty then none else some { a with host := toggledHost a.host }

end Address

end Declutter

import Declutter.Text.Utf8
import Declutter.Url.DomainName
import Declutter.Url.Ip

namespace Declutter.Authority

/-- The bytes of a text with its percent escapes resolved. -/
def percentDecoded : Text → List Nat
  | [] => []
  | '%' :: a :: b :: rest =>
    match Text.hexValue? a, Text.hexValue? b with
    | some h, some l => (16 * h + l) :: percentDecoded rest
    | _, _ => 37 :: percentDecoded (a :: b :: rest)
  | c :: rest => Text.bytesOf c ++ percentDecoded rest

/-- The name that a written host stands for. -/
def resolved? (written : Text) : Option Text :=
  if written.contains '%' then Text.ofBytes? (percentDecoded written) else some written

/-- Whether labels name a host: not nothing, and an address if they end in a number. -/
def areHost (labels : List Text) : Bool :=
  labels != [[]] && (!Ip.endsInNumber labels || Ip.isVersion4 labels)

/-- Whether a text is a host: a bracketed version 6 address, a domain name or an address. -/
def isHost : Text → Bool
  | '[' :: rest => rest.getLast? == some ']' && Ip.isVersion6 rest.dropLast
  | written =>
    match (resolved? written).bind DomainName.read? with
    | some labels => areHost labels
    | none => false

/-- The text before the first colon outside brackets, and the text from it on. -/
def cutHost : (bracketed : Bool) → Text → Text × Text
  | _, [] => ([], [])
  | bracketed, c :: rest =>
    if c = ':' ∧ !bracketed then ([], c :: rest)
    else
      let bracketed := if c = '[' then true else if c = ']' then false else bracketed
      let (host, after) := cutHost bracketed rest
      (c :: host, after)

/-- Whether what follows a host is nothing or a colon and a number of 16 bits. -/
def endsHost : Text → Bool
  | [] => true
  | _ :: digits => digits.all Text.isAsciiDigit && Text.decimal digits < 65536

def endsAuthority (c : Char) : Bool :=
  c == '/' || c == '\\' || c == '?' || c == '#'

/-- Whether `https://` followed by a text is a URL with a host. -/
def hasHost (afterScheme : Text) : Bool :=
  let cleaned := Text.dropEndWhile (·.toNat ≤ 32) afterScheme
  let kept := cleaned.filter fun c => c != '\t' && c != '\n' && c != '\r'
  let authority :=
    (kept.dropWhile fun c => c == '/' || c == '\\').takeWhile fun c => !endsAuthority c
  let (host, after) := cutHost false (Text.afterLast (· == '@') authority)
  !host.isEmpty && isHost host && endsHost after

end Declutter.Authority

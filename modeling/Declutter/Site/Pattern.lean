import Declutter.Text.Blank
import Declutter.Url.Address
import Declutter.Url.Authority
import Declutter.Site.Glob

namespace Declutter

/-- One alternative of a site pattern: every page, or the pages whose URL starts with a glob. -/
inductive Fragment
  | everyPage
  | glob (text : Text)
deriving DecidableEq, Repr

/-- The fragment of a pattern that names no site. -/
structure InvalidPattern where
  fragment : Text
deriving DecidableEq, Repr

def InvalidPattern.message (e : InvalidPattern) : Text :=
  "Invalid URL pattern: ".toList ++ e.fragment

namespace Fragment

/-- What stands for a star while the host of a fragment is checked. -/
def sampleLabel : Text := "wildcard".toList

def sample (t : Text) : Text :=
  t.flatMap fun c => if c = '*' then sampleLabel else [c]

/-- A lone star, or a text with a dot that names a host behind `https://`. -/
def compile (t : Text) : Except InvalidPattern Fragment :=
  if t = ['*'] then .ok .everyPage
  else if t.contains '.' && Authority.hasHost (sample t) then .ok (.glob t)
  else .error ⟨t⟩

/-- Whether a fragment accepts what follows the scheme of a URL. -/
def accepts : Fragment → Text → Bool
  | .everyPage, afterScheme => afterScheme.head?.any (· != '\n')
  | .glob g, afterScheme => Glob.startsAt g '/' afterScheme

end Fragment

/-- A compiled site pattern with its text. -/
structure SitePattern where
  raw : Text
  fragments : List Fragment
deriving DecidableEq, Repr

namespace SitePattern

/-- Compiles the words of a pattern, of which there is at least one. -/
def compile (raw : Text) : Except InvalidPattern SitePattern :=
  match (Text.words raw).mapM Fragment.compile with
  | .error e => .error e
  | .ok [] => .error ⟨raw⟩
  | .ok fragments => .ok ⟨raw, fragments⟩

/-- Whether some fragment accepts a page URL as it is written. -/
def acceptsAsWritten (p : SitePattern) (a : Address) : Bool :=
  p.fragments.any fun f => f.accepts (a.userinfo ++ a.host ++ a.rest)

/-- Whether some fragment accepts a page URL or its other form with or without `www.`. -/
def accepts (p : SitePattern) (url : Text) : Bool :=
  match Address.of? url with
  | none => false
  | some a => p.acceptsAsWritten a || a.wwwVariant?.any p.acceptsAsWritten

end SitePattern

end Declutter

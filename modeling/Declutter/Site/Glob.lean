import Declutter.Unicode.Fold
import Declutter.Unicode.WordChar

namespace Declutter.Glob

/-- The characters that a star stands for: it stays within one label or path segment. -/
def isInLabel (c : Char) : Bool :=
  c != '.' && c != '/'

/-- Whether a word starts or ends between two characters; an end of the text is no word. -/
def isWordEdge (last : Char) (next : Option Char) : Bool :=
  Unicode.isWordChar last != next.any Unicode.isWordChar

/-- Whether an instance of the glob starts the text and ends at the edge of a word. Each star
stands for one or more characters of a label, all else for itself up to case. -/
def startsAt : (glob : Text) → (last : Char) → Text → Bool
  | [], last, rest => isWordEdge last rest.head?
  | _ :: _, _, [] => false
  | '*' :: glob, _, c :: rest =>
    isInLabel c && (startsAt glob c rest || startsAt ('*' :: glob) c rest)
  | g :: glob, _, c :: rest => Unicode.sameFold g c && startsAt glob c rest

end Declutter.Glob

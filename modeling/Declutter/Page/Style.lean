import Declutter.Text.Blank

namespace Declutter.Style

/-- An inline style without blanks around it and separators at its end. -/
def settled (style : Text) : Text :=
  Text.trimEnd (Text.dropEndWhile (· == ';') (Text.trim style))

/-- An inline style with one more declaration. -/
def append (style declaration : Text) : Text :=
  if (settled style).isEmpty then declaration
  else settled style ++ "; ".toList ++ declaration

end Declutter.Style

import Declutter.Text.Blank

namespace Declutter.Text

/-- The text between a leading and a trailing single quote, if both are there. -/
def betweenQuotes? : Text → Option Text
  | '\'' :: rest => if rest.getLast? = some '\'' then some rest.dropLast else none
  | _ => none

/-- Drops the blanks around a value and then one pair of single quotes around it. -/
def unquote (t : Text) : Text :=
  (betweenQuotes? (trim t)).getD (trim t)

end Declutter.Text

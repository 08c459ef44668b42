import AccessControl.Text.Blank
import AccessControl.Text.Split

/-!
# Filters as patterns

A database matches policies with patterns in which `%` stands for any text and `_` for any
character, unless a backslash precedes them.  A filter that ends in an open segment becomes a
pattern that ends in `%`; everything else of it is literal.
-/

namespace AccessControl.Database

/-- Whether patterns give the character a meaning. -/
def isSpecial (c : Char) : Bool :=
  c = '\\' || c = '%' || c = '_'

/-- The characters with a backslash in front of every special one. -/
def escapeChars : List Char → List Char
  | [] => []
  | c :: rest => if isSpecial c then '\\' :: c :: escapeChars rest else c :: escapeChars rest

/-- The pattern that only the text itself matches. -/
def escape (text : String) : String := String.ofList (escapeChars text.toList)

/-- The pattern of one alternative of a filter. -/
def pattern (alternative : String) : String :=
  match Text.stripEnding? ":*" alternative with
  | some stem => escape stem ++ ":%"
  | none => escape alternative

/-- The patterns of filters, without repetitions.  Alternatives are split at bars, blanks around
them do not count, and nothing becomes of an empty one. -/
def filterPatterns (filters : List String) : List String :=
  let alternatives := (filters.flatMap (Text.split '|')).map Text.trim
  ((alternatives.filter (· ≠ "")).map pattern).eraseDups

end AccessControl.Database

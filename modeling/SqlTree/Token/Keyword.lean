/-!
# Keywords

The reserved words of the fragments this library reads.  A word is a keyword when it equals the
keyword's upper-case spelling up to the case of ASCII letters; no other case folding applies.
-/

namespace SqlTree

/-- The reserved words. -/
inductive Keyword where
  | select
  | update
  | insert
  | delete
  | «from»
  | «where»
  | limit
  | offset
  | set
  | as
  | group
  | «by»
  | having
  | order
  | distinct
  | only
  | returning
  | values
  | into
  | and
  | or
  | inner
  | cross
  | left
  | right
  | join
  | on
  deriving DecidableEq, Repr

namespace Keyword

def all : List Keyword := [
  select, update, insert, delete, «from», «where», limit, offset, set, as, group, «by», having,
  order, distinct, only, returning, values, into, and, or, inner, cross, left, right, join, on]

def spelling : Keyword → String
  | select => "SELECT"
  | update => "UPDATE"
  | insert => "INSERT"
  | delete => "DELETE"
  | «from» => "FROM"
  | «where» => "WHERE"
  | limit => "LIMIT"
  | offset => "OFFSET"
  | set => "SET"
  | as => "AS"
  | group => "GROUP"
  | «by» => "BY"
  | having => "HAVING"
  | order => "ORDER"
  | distinct => "DISTINCT"
  | only => "ONLY"
  | returning => "RETURNING"
  | values => "VALUES"
  | into => "INTO"
  | and => "AND"
  | or => "OR"
  | inner => "INNER"
  | cross => "CROSS"
  | left => "LEFT"
  | right => "RIGHT"
  | join => "JOIN"
  | on => "ON"

/-- The keyword that a word spells in any mixture of ASCII cases. -/
def lookup (word : String) : Option Keyword :=
  all.find? fun keyword => word.toList.map Char.toUpper == keyword.spelling.toList

end Keyword

end SqlTree

import LeaseLock.Text.Utf8
import LeaseLock.Url.Parse

/-!
# Queries

A query as a list of names with values. A plus sign stands for a blank, and a value that is
missing for the empty one.
-/

namespace LeaseLock.Url

/-- The text that a part of a query stands for. -/
def queryText (cs : List Char) : String :=
  Text.ofBytes (percentDecode (cs.map fun c => if c = '+' then ' ' else c))

/-- The names and values of a query. -/
def pairs (query : List Char) : List (String × String) :=
  ((query.splitOn '&').filter (· ≠ [])).map fun part =>
    (queryText (part.takeWhile (· != '=')), queryText (part.dropWhile (· != '=')).tail)

/-- The last value of a name. -/
def parameter? (url : Url) (name : String) : Option String :=
  (pairs (url.query.getD [])).reverse.lookup name

end LeaseLock.Url

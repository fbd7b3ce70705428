import Reshape.Text.Alphanumeric
import Reshape.Text.Case
import Reshape.Text.Cluster

namespace Reshape.Words

open Text

/-- Punctuation separates words, as spaces do. -/
def spaced (s : String) : List Char :=
  s.toList.map fun c ↦ if isAlphanumeric c then c else ' '

def isDigits (s : List Char) : Bool := s.all Char.isDigit

/-- Whether a word ends between two clusters. The last capital of several belongs to the word
that goes on in lower case. -/
def breaksBetween (a b : List Char) (after : Option (List Char)) : Bool :=
  isLower a && (isUpper b || isDigits b) ||
    isUpper a && (isDigits b || isUpper b && after.any isLower) ||
    isDigits a && (isLower b || isUpper b)

def endsWord (cluster : List Char) : List (List Char) → Bool
  | [] => false
  | next :: rest => breaksBetween cluster next rest.head?

/-- The first word and the others. A space without marks belongs to no word. The empty word between
two of them is a word like any other and is not dropped, nor is one at either end: joined with
hyphens, `a` and `b` with two spaces between them give `a--b`, and in a Pascal name it adds nothing. -/
def splitWords : List (List Char) → List Char × List (List Char)
  | [] => ([], [])
  | cluster :: rest =>
    let (word, others) := splitWords rest
    if cluster = [' '] then ([], word :: others)
    else if endsWord cluster rest then (cluster, word :: others)
    else (cluster ++ word, others)

def words (s : String) : List (List Char) :=
  if s.isEmpty then []
  else
    let (word, others) := splitWords (clusters (spaced s))
    word :: others

def capitalize : List Char → List Char
  | [] => []
  | c :: rest => upper c ++ lowerCase rest

def pascal (s : String) : String := String.ofList ((words s).flatMap capitalize)

def kebab (s : String) : String :=
  "-".intercalate ((words s).map fun w ↦ String.ofList (lowerCase w))

end Reshape.Words

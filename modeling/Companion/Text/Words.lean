import Companion.Text.CaseMap
import Companion.Text.Letter
import Companion.Text.Search

/-!
# Words and lower camel case

A name is cut into words at every character that is neither a letter nor a number, and inside what
remains at changes of case: `fooBar` has the words `foo` and `Bar`, and `HTTPServer` has `HTTP` and
`Server`. Lower camel case writes the first word in lower case and capitalises the others.
-/

namespace Companion.Text

/-- The case of the word read so far; `start` until a cased character has been seen. -/
inductive WordCase where
  | start
  | lower
  | upper
  deriving DecidableEq

/-- The words of a run of letters and numbers, where `word` is the part of the current word that
has been read. A word ends after a lower-case stretch that a capital follows, and before a capital
that stands between a capital and a lower-case letter. -/
def wordsFrom (mode : WordCase) (word : List Char) : List Char → List (List Char)
  | [] => []
  | [c] => [word ++ [c]]
  | c :: next :: rest =>
    let here := if isLower c then .lower else if isUpper c then .upper else mode
    if here = .lower && isUpper next then
      (word ++ [c]) :: wordsFrom .start [] (next :: rest)
    else if mode = .upper && isUpper c && isLower next then
      word :: wordsFrom .start [c] (next :: rest)
    else
      wordsFrom here (word ++ [c]) (next :: rest)

/-- The words of a name. -/
def words (name : List Char) : List (List Char) :=
  (splitBy (!isAlphanumeric ·) name).flatMap (wordsFrom .start [])

/-- A word in lower case, where a sigma at the end takes its final form. -/
def lowerWord : List Char → List Char
  | [] => []
  | [c] => if c = 'Σ' then ['ς'] else lower c
  | c :: next :: rest => lower c ++ lowerWord (next :: rest)

/-- A word with its first character in upper case and all others in lower case. -/
def capitalise : List Char → List Char
  | [] => []
  | c :: rest => upper c ++ lowerWord rest

/-- A name in lower camel case. Whatever is no letter or number only separates words. -/
def lowerCamel (name : List Char) : List Char :=
  match words name with
  | [] => []
  | first :: others => lowerWord first ++ others.flatMap capitalise

end Companion.Text

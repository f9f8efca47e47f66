import DocViewer.Text.Basic

/-!
# White space

The characters with the Unicode property White_Space (`isBlank`), a text without those at its ends (`trim`), and the
stretches between them (`words`), joined by single spaces (`collapse`).
-/

namespace DocViewer

/-- White_Space of Unicode. -/
def isBlank (c : Char) : Bool :=
  c = ' ' || ('\t' ≤ c && c ≤ '\r') || c = '\u0085' || c = '\u00a0' || c = '\u1680' ||
    ('\u2000' ≤ c && c ≤ '\u200a') || c = '\u2028' || c = '\u2029' || c = '\u202f' || c = '\u205f' || c = '\u3000'

/-- The text without the white space at its front. -/
def trimStart (t : Text) : Text := t.dropWhile isBlank

/-- The text without the white space at its end. -/
def trimEnd (t : Text) : Text := (t.reverse.dropWhile isBlank).reverse

def trim (t : Text) : Text := trimEnd (trimStart t)

/-- `words` with the words found so far, the last one first, and the characters of the word at hand, the last one
first. -/
def wordsFrom (found : List Text) (word : Text) : Text → List Text
  | [] => (if word.isEmpty then found else word.reverse :: found).reverse
  | c :: t =>
    if isBlank c then wordsFrom (if word.isEmpty then found else word.reverse :: found) [] t
    else wordsFrom found (c :: word) t

/-- The longest stretches without white space, from left to right. -/
def words (t : Text) : List Text := wordsFrom [] [] t

/-- The words, separated by single spaces. -/
def collapse (t : Text) : Text := [' '].intercalate (words t)

end DocViewer

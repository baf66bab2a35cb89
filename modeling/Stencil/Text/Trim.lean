import Stencil.Unicode.Property

/-!
# Blanks around and between words

Texts are handled as lists of characters here. Trimming removes blanks from both ends; the words of
a text are its longest runs without a blank.
-/

namespace Stencil.Text

open Unicode (isBlank)

def trim (cs : List Char) : List Char :=
  ((cs.dropWhile isBlank).reverse.dropWhile isBlank).reverse

def isBlankText (cs : List Char) : Bool :=
  cs.all isBlank

/-- The words of a text, `word` being what is read of the current one, last character first. -/
def wordsFrom (word : List Char) : List Char → List (List Char)
  | [] => if word.isEmpty then [] else [word.reverse]
  | c :: rest =>
    if isBlank c then
      if word.isEmpty then wordsFrom [] rest else word.reverse :: wordsFrom [] rest
    else
      wordsFrom (c :: word) rest

def words (cs : List Char) : List (List Char) :=
  wordsFrom [] cs

def trimmed (text : String) : String :=
  String.ofList (trim text.toList)

end Stencil.Text

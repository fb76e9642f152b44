/-!
# Words without regard to case

Keywords, word literals and connectives are compared letter by letter in the ASCII range.
-/

namespace DocQuery.Text

def sameLetters (s t : List Char) : Bool :=
  s.map Char.toLower == t.map Char.toLower

def sameWord (s t : String) : Bool :=
  sameLetters s.toList t.toList

def dropWord? : (word text : List Char) → Option (List Char)
  | [], text => some text
  | _ :: _, [] => none
  | w :: word, c :: text => if c.toLower = w.toLower then dropWord? word text else none

/-- The ASCII capital that a letter becomes in capitals. Besides the small ASCII letters these
are the dotless i and the long s, the only others whose capital is a single ASCII letter. -/
def capital (c : Char) : Char :=
  if c = 'ı' then 'I' else if c = 'ſ' then 'S' else c.toUpper

def isNameStart (c : Char) : Bool :=
  c.isAlpha || c == '_'

def isWordChar (c : Char) : Bool :=
  c.isAlphanum || c == '_'

def isNameChar (c : Char) : Bool :=
  isWordChar c || c == '.'

end DocQuery.Text

/-!
Comparison that ignores the case of the letters A to Z and of no other character.
-/
namespace ZigbeeBridge.Text

def sameLetter (a b : Char) : Bool := a.toLower == b.toLower

def sameLetters : List Char → List Char → Bool
  | [], [] => true
  | a :: as, b :: bs => sameLetter a b && sameLetters as bs
  | _, _ => false

def sameLettersAs (word : String) (s : String) : Bool := sameLetters word.toList s.toList

/-- The text begins with the word in some letter case. -/
def beginsWith (word : List Char) (cs : List Char) : Bool :=
  sameLetters word (cs.take word.length)

def lowercase (s : String) : String := String.ofList (s.toList.map Char.toLower)

def uppercase (s : String) : String := String.ofList (s.toList.map Char.toUpper)

end ZigbeeBridge.Text

/-! Letter case, as far as ASCII words are compared without it. -/

namespace HeadlessDesktop.Text

/-- Lower case for comparison with an ASCII word: U+0130 and U+212A are the only
characters outside ASCII whose lower-case form is an ASCII letter, so all others may
stay as they are. -/
def lowerChar (c : Char) : Char :=
  if c.toNat == 0x0130 then 'i'
  else if c.toNat == 0x212A then 'k'
  else c.toLower

def lower (text : String) : String := String.ofList (text.toList.map lowerChar)

/-- The representative of a character's case orbit. U+017F and U+212A are the only
characters outside ASCII in the orbit of an ASCII letter. -/
def foldChar (c : Char) : Char :=
  if c.toNat == 0x017F then 'S'
  else if c.toNat == 0x212A then 'K'
  else c.toUpper

def sameWord (word text : String) : Bool :=
  word.toList.map foldChar == text.toList.map foldChar

end HeadlessDesktop.Text

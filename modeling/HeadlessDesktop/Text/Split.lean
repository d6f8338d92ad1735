/-! Cutting a text at a character. -/

namespace HeadlessDesktop.Text

/-- The pieces between separators; there is always one, and it may be empty. -/
def splitAtChar (separator : Char) : List Char → List (List Char)
  | [] => [[]]
  | c :: rest =>
    if c == separator then [] :: splitAtChar separator rest
    else match splitAtChar separator rest with
      | piece :: more => (c :: piece) :: more
      | [] => [[c]]

def joinWith (separator : String) : List String → String
  | [] => ""
  | [piece] => piece
  | piece :: rest => piece ++ separator ++ joinWith separator rest

end HeadlessDesktop.Text

/-! # Splitting a text

    The parts of a text between the occurrences of a character.  There is
    one part at least. -/

namespace ResourceClient.Text

/-- Puts a character in front of the first part. -/
def consHead (c : Char) : List (List Char) → List (List Char)
  | [] => [[c]]
  | part :: more => (c :: part) :: more

/-- The parts of a text between the occurrences of a character. -/
def splitAtEach (separator : Char) : List Char → List (List Char)
  | [] => [[]]
  | c :: rest =>
    if c == separator then [] :: splitAtEach separator rest
    else consHead c (splitAtEach separator rest)

end ResourceClient.Text

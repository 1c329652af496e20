/-!
# Text — splitting

A text cut at each occurrence of a character. There is always one part
more than there are cuts.
-/

namespace Telemetry

namespace Text

/-- A text split at each occurrence of a character. -/
def splitAt (sep : Char) : List Char → List (List Char)
  | [] => [[]]
  | c :: rest =>
    if c = sep then [] :: splitAt sep rest
    else match splitAt sep rest with
      | part :: parts => (c :: part) :: parts
      | [] => [[c]]

/-- A string split at each occurrence of a character. -/
def splitString (sep : Char) (s : String) : List String := (splitAt sep s.toList).map String.ofList

end Text

end Telemetry

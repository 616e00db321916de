import DecoratorGraph.Text.Basic
/-!
# The document around an image

A document with a title and an image in place. What stands before the image element, such as
a prolog, is left out.
-/

namespace DecoratorGraph.Drawing

def markupCharacter (c : Char) : List Char :=
  if c = '&' then "&amp;".toList
  else if c = '<' then "&lt;".toList
  else if c = '>' then "&gt;".toList
  else [c]

def markupText (s : List Char) : List Char := s.flatMap markupCharacter

/-- The image without what stands before its element and without blanks at the end. -/
def imageElement (svg : List Char) : List Char :=
  Text.trimEnd ((Text.fromFirst? "<svg".toList svg).getD svg)

def htmlDocument (title svg : String) : String :=
  "<!DOCTYPE html>\n<html>\n<head>\n<meta charset=\"utf-8\">\n<title>" ++
    String.ofList (markupText title.toList) ++ "</title>\n</head>\n<body>\n" ++
    String.ofList (imageElement svg.toList) ++ "\n</body>\n</html>\n"

end DecoratorGraph.Drawing

import DocSearch.Text.CharSet

/-!
# Blank characters

The characters with the Unicode property White_Space, and texts made of them alone.
-/

namespace DocSearch.Text

/-- The characters with the property White_Space. -/
def blanks : CharSet := ⟨[
  (9, 13), (32, 32), (133, 133), (160, 160), (5760, 5760), (8192, 8202), (8232, 8233),
  (8239, 8239), (8287, 8287), (12288, 12288)]⟩

/-- A character is blank when it has the property White_Space. -/
def isBlank (c : Char) : Bool := blanks.contains c

/-- A text is blank when all its characters are. -/
def allBlank (s : String) : Bool := s.toList.all isBlank

end DocSearch.Text

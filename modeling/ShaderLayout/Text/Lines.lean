/-!
Lines of text. Generated files are made as lists of lines; a file is the lines
one after the other, each with a line break at its end.
-/

namespace ShaderLayout.Text

/-- The lines as one text. -/
def unlines (lines : List String) : String :=
  String.join (lines.map (· ++ "\n"))

theorem toList_unlines_cons (line : String) (lines : List String) :
    (unlines (line :: lines)).toList = line.toList ++ '\n' :: (unlines lines).toList := by
  simp [unlines]

/-- Moves a line one step to the right, unless it is empty. -/
def indent (line : String) : String :=
  if line.isEmpty then line else "    " ++ line

/-- Lines between braces: the head with the opening brace, the body one step to the right, and
the closing brace with what follows it. -/
def braced (head : String) (body : List String) (tail : String) : List String :=
  (head ++ " \x7b") :: body.map indent ++ ["\x7d" ++ tail]

/-- Items with commas between them. -/
def commaSeparated (items : List String) : String :=
  String.intercalate ", " items

end ShaderLayout.Text

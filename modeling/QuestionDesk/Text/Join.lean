/-!
# Joined texts

Texts put one after another with a separator between neighbours.
-/
namespace QuestionDesk.Text

/-- The texts in order, neighbours parted by the separator. -/
def joined (separator : String) : List String → String
  | [] => ""
  | [only] => only
  | first :: next :: rest => first ++ separator ++ joined separator (next :: rest)

end QuestionDesk.Text

/-!
# Enumerations

Listing alternatives in a sentence. Each item is written between two marks. Commas stand
between the items, and the last two are joined by a conjunction instead.
-/

namespace RuntimeValues.Text

set_option autoImplicit false

/-- The items in order, each between `before` and `after`. No item gives the empty text. -/
def enumerate (conjunction before after : String) : List String → String
  | [] => ""
  | [last] => before ++ last ++ after
  | [item, last] =>
    before ++ item ++ after ++ " " ++ conjunction ++ " " ++ before ++ last ++ after
  | item :: rest => before ++ item ++ after ++ ", " ++ enumerate conjunction before after rest

end RuntimeValues.Text

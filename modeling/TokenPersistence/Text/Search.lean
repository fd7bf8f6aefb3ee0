/-!
# Texts in texts
-/

namespace TokenPersistence.Text

set_option autoImplicit false

def occurs (part : List Char) : List Char → Bool
  | [] => part.isEmpty
  | first :: rest => part.isPrefixOf (first :: rest) || occurs part rest

def contains (text part : String) : Bool := occurs part.toList text.toList

end TokenPersistence.Text

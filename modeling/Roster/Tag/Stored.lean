import Roster.Json.Reader

/-!
# Stored tags

Tags are also kept as the text of a JSON array. What is no such text holds no tags; items that are
no texts are taken as they are shown. A text with too many levels cannot be read at all.
-/

namespace Roster.Tag

/-- The tags of a stored text, or the bracket that opens a level too many. -/
def ofStored (α : Type) [Numeral α] (s : Text) : Except Json.Bracket (List Text) :=
  match Json.read (α := α) s with
  | .ok (.array items) => .ok (items.map Json.plainText)
  | .error (.tooDeep bracket) => .error bracket
  | _ => .ok []

end Roster.Tag

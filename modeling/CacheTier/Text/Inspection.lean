import CacheTier.Text.Hex
import CacheTier.Text.Visible

/-!
# Text for inspection

Texts as they are shown to a person who inspects a value: between quotes, with
every character that cannot be shown replaced by an escape.
-/

namespace CacheTier
namespace Inspection

/-- A character between quotes. -/
def shownChar (c : Char) : List Char :=
  match c with
  | '\x00' => ['\\', '0']
  | '\t' => ['\\', 't']
  | '\r' => ['\\', 'r']
  | '\n' => ['\\', 'n']
  | '"' => ['\\', '"']
  | '\\' => ['\\', '\\']
  | c =>
    if Visible.isVisible c then [c]
    else '\\' :: 'u' :: '\x7b' :: Hex.shortest c.toNat ++ ['\x7d']

/-- A text between quotes. -/
def quoted (s : String) : String :=
  String.ofList ('"' :: s.toList.flatMap shownChar ++ ['"'])

/-- Shown items between brackets. -/
def bracketed (items : List String) : String :=
  "[" ++ String.intercalate ", " items ++ "]"

/-- A value that may be absent. -/
def optional {α : Type} (f : α → String) : Option α → String
  | none => "None"
  | some a => "Some(" ++ f a ++ ")"

end Inspection
end CacheTier

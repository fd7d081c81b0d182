import TwoFlow.Text.Ignorable
import TwoFlow.Text.Mark
import TwoFlow.Text.Unassigned

/-!
# Quoted text

A text inside a structured value stands between double quotes. Quotes and backslashes are escaped
by a backslash, four control characters have a letter of their own, and every other character that
does not show as itself is written by its number.

## Main definitions

* `Text.isInvisible`: control, format and private-use characters and separators
* `Text.isHidden`: the characters that do not show as themselves
* `Text.quoted`: a text between quotes
-/

namespace TwoFlow.Text

/-- The code points of control, format and private-use characters and of the separators of words,
lines and paragraphs other than the space. -/
def invisibleRanges : List CharRange :=
  [⟨0x0, 0x1f⟩, ⟨0x7f, 0xa0⟩, ⟨0xad, 0xad⟩, ⟨0x600, 0x605⟩, ⟨0x61c, 0x61c⟩, ⟨0x6dd, 0x6dd⟩,
   ⟨0x70f, 0x70f⟩, ⟨0x890, 0x891⟩, ⟨0x8e2, 0x8e2⟩, ⟨0x1680, 0x1680⟩, ⟨0x180e, 0x180e⟩,
   ⟨0x2000, 0x200f⟩, ⟨0x2028, 0x202f⟩, ⟨0x205f, 0x2064⟩, ⟨0x2066, 0x206f⟩, ⟨0x3000, 0x3000⟩,
   ⟨0xe000, 0xf8ff⟩, ⟨0xfeff, 0xfeff⟩, ⟨0xfff9, 0xfffb⟩, ⟨0x110bd, 0x110bd⟩, ⟨0x110cd, 0x110cd⟩,
   ⟨0x13430, 0x1343f⟩, ⟨0x1bca0, 0x1bca3⟩, ⟨0x1d173, 0x1d17a⟩, ⟨0xe0001, 0xe0001⟩,
   ⟨0xe0020, 0xe007f⟩, ⟨0xf0000, 0xffffd⟩, ⟨0x100000, 0x10fffd⟩]

/-- Is the character a control, format or private-use character or a separator? -/
def isInvisible (c : Char) : Bool := inRanges invisibleRanges c

/-- Does the character not show as itself? -/
def isHidden (c : Char) : Bool :=
  isInvisible c || isAttachingMark c || isIgnorable c || isUnassigned c

/-- One character inside quotes. -/
def quotedChar (c : Char) : String :=
  match c with
  | '"' => "\\\""
  | '\\' => "\\\\"
  | '\n' => "\\n"
  | '\t' => "\\t"
  | '\r' => "\\r"
  | '\x00' => "\\0"
  | c =>
    if isHidden c then "\\u\x7b" ++ String.ofList (Nat.toDigits 16 c.toNat) ++ "\x7d"
    else String.singleton c

/-- A text between quotes. -/
def quoted (s : String) : String :=
  "\"" ++ String.join (s.toList.map quotedChar) ++ "\""

end TwoFlow.Text

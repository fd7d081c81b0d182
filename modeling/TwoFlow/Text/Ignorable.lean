import TwoFlow.Text.CharRange

/-!
# Characters that may be ignored

The code points with the Unicode property `Default_Ignorable_Code_Point`, version 17.0: where a
font does not support them, nothing is shown in their place. Fillers are among them, which are
letters without a shape, and so are code points that are kept free for characters of this kind.

## Main definitions

* `Text.isIgnorable`
-/

namespace TwoFlow.Text

/-- The code points that may be ignored. -/
def ignorableRanges : List CharRange :=
  [⟨0xad, 0xad⟩, ⟨0x34f, 0x34f⟩, ⟨0x61c, 0x61c⟩, ⟨0x115f, 0x1160⟩, ⟨0x17b4, 0x17b5⟩,
   ⟨0x180b, 0x180f⟩, ⟨0x200b, 0x200f⟩, ⟨0x202a, 0x202e⟩, ⟨0x2060, 0x206f⟩, ⟨0x3164, 0x3164⟩,
   ⟨0xfe00, 0xfe0f⟩, ⟨0xfeff, 0xfeff⟩, ⟨0xffa0, 0xffa0⟩, ⟨0xfff0, 0xfff8⟩, ⟨0x1bca0, 0x1bca3⟩,
   ⟨0x1d173, 0x1d17a⟩, ⟨0xe0000, 0xe0fff⟩]

/-- May the character be ignored? -/
def isIgnorable (c : Char) : Bool := inRanges ignorableRanges c

end TwoFlow.Text

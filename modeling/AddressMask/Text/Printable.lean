import AddressMask.Text.Extending
import AddressMask.Text.Unassigned

/-!
# Printable characters

Which characters may stand in a quoted text as they are: those that show something of their own,
whatever stands beside them. Of ASCII these are the blank and everything after it up to the tilde.
Beyond ASCII, four kinds do not:

* the silent characters, which show nothing or cannot be told from a blank;
* private characters, on whose look nothing is agreed;
* code points that no character is assigned to;
* the characters that extend the one before them, and would join the text around them.

The tables follow version 17 of the Unicode standard.
-/

namespace AddressMask.Text

/-- The silent and the private characters beyond ASCII: controls, format characters, separators and
the private-use areas. -/
def silent : Ranges :=
  [(0x7f, 0xa0), (0xad, 0xad), (0x600, 0x605), (0x61c, 0x61c), (0x6dd, 0x6dd), (0x70f, 0x70f),
   (0x890, 0x891), (0x8e2, 0x8e2), (0x1680, 0x1680), (0x180e, 0x180e), (0x2000, 0x200f),
   (0x2028, 0x202f), (0x205f, 0x2064), (0x2066, 0x206f), (0x3000, 0x3000), (0xe000, 0xf8ff),
   (0xfeff, 0xfeff), (0xfff9, 0xfffb), (0x110bd, 0x110bd), (0x110cd, 0x110cd), (0x13430, 0x1343f),
   (0x1bca0, 0x1bca3), (0x1d173, 0x1d17a), (0xe0001, 0xe0001), (0xe0020, 0xe007f),
   (0xf0000, 0xffffd), (0x100000, 0x10fffd)]

/-- Whether a character shows itself when it is printed. -/
def isPrintable (c : Char) : Bool :=
  if c.toNat < 0x7f then 0x20 ≤ c.toNat
  else !(silent.contains c.toNat || extending.contains c.toNat || unassigned.contains c.toNat)

theorem isPrintable_of_ascii {c : Char} (hl : 0x20 ≤ c.toNat) (hh : c.toNat < 0x7f) :
    isPrintable c = true := by
  simp [isPrintable, hl, hh]

example : silent.count = 137689 := by decide +kernel
example : silent.ascending = true := by decide
example : isPrintable 'é' = true := by decide +kernel
example : isPrintable (Char.ofNat 0x200b) = false := by decide +kernel

end AddressMask.Text

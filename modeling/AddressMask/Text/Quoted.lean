import AddressMask.Numeral
import AddressMask.Text.Printable

/-!
# Quoted texts

How a piece of input is quoted in a message. The text stands between double quotes. A double quote
and a backslash in it follow a backslash, the line feed, carriage return, tab and NUL are written
as `\n`, `\r`, `\t` and `\0`, and every other character that is not printable is written as its code
point, `\u{7f}`. All other characters, the apostrophe among them, stand as they are.
-/

namespace AddressMask.Text

/-- One character of a quoted text. -/
def escape (c : Char) : List Char :=
  if c = '"' ∨ c = '\\' then ['\\', c]
  else if c = '\n' then ['\\', 'n']
  else if c = '\r' then ['\\', 'r']
  else if c = '\t' then ['\\', 't']
  else if c.toNat = 0 then ['\\', '0']
  else if isPrintable c then [c]
  else ['\\', 'u', '\x7b'] ++ Numeral.hex c.toNat ++ ['\x7d']

/-- A text in double quotes, with everything escaped that could not be seen or would end it. -/
def quoted (text : String) : String :=
  String.ofList ('"' :: (text.toList.flatMap escape ++ ['"']))

/-- A printable character other than the quote and the backslash stands for itself. -/
theorem escape_of_isPrintable {c : Char} (h : isPrintable c = true) (hq : c ≠ '"') (hb : c ≠ '\\') :
    escape c = [c] := by
  have silent : ∀ d : Char, isPrintable d = false → c ≠ d := by
    rintro d hd rfl
    exact absurd h (by simp [hd])
  have nul : c.toNat ≠ 0 := by
    intro h0
    exact silent (Char.ofNat 0) (by decide) (Char.toNat_inj.1 h0)
  simp [escape, hq, hb, nul, h, silent '\n' (by decide), silent '\r' (by decide),
    silent '\t' (by decide)]

example : quoted "1.\"2\\'\n" = "\"1.\\\"2\\\\'\\n\"" := by decide +kernel
example : escape (Char.ofNat 0x200b) = "\\u\x7b200b\x7d".toList := by decide +kernel

end AddressMask.Text

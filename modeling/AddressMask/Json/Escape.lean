/-!
# Escapes in JSON strings

The characters that have an escape of their own: a backslash and one more character. Writing looks
up the character, reading looks up what follows the backslash. A slash may be escaped too, but is
never written so.
-/

namespace AddressMask.Json

/-- The characters with a short escape, each with the character that follows its backslash. -/
def shortEscapes : List (Char × Char) :=
  [('"', '"'), ('\\', '\\'), ('\x08', 'b'), ('\x0c', 'f'), ('\n', 'n'), ('\r', 'r'), ('\t', 't')]

/-- What follows the backslash in the short escape of a character. -/
def shortEscape? (c : Char) : Option Char :=
  (shortEscapes.find? fun entry => entry.1 == c).map (·.2)

/-- The character whose short escape has this character after its backslash. -/
def ofShortEscape? (letter : Char) : Option Char :=
  if letter = '/' then some '/'
  else (shortEscapes.find? fun entry => entry.2 == letter).map (·.1)

example : shortEscapes.all (fun (c, letter) => ofShortEscape? letter = some c) = true := by decide

/-- From the blank on, only the quote and the backslash have a short escape. -/
theorem shortEscape?_eq_none {c : Char} (hq : c ≠ '"') (hb : c ≠ '\\') (h : 0x20 ≤ c.toNat) :
    shortEscape? c = none := by
  have outside : ∀ entry ∈ shortEscapes, entry.1 ≠ c := by
    rintro ⟨d, letter⟩ hd rfl
    have : d = '"' ∨ d = '\\' ∨ d.toNat < 0x20 := by
      simp only [shortEscapes, List.mem_cons, Prod.mk.injEq, List.not_mem_nil, or_false] at hd
      rcases hd with ⟨rfl, -⟩ | ⟨rfl, -⟩ | ⟨rfl, -⟩ | ⟨rfl, -⟩ | ⟨rfl, -⟩ | ⟨rfl, -⟩ | ⟨rfl, -⟩ <;> decide
    rcases this with h' | h' | h'
    · exact hq h'
    · exact hb h'
    · exact absurd h (Nat.not_le.2 h')
  rw [shortEscape?, List.find?_eq_none.2, Option.map_none]
  intro entry hentry
  simpa using outside entry hentry

end AddressMask.Json

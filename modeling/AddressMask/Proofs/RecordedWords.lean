import AddressMask.Mask.TextForm
import Mathlib.Logic.Function.Basic

/-!
# What a record says

A record is a sentence, and it has to tell what happened: `message_injective` says that no two
events share a sentence.  The words around the evidence tell the events of different kinds apart.
Within a kind it is the evidence that must not get lost, and that takes an argument where input is
quoted, because a quoted character can be one character long or many.

What carries the argument is that a quoted character tells where it ends, and that none of them
begins with the quote that ends the text (`escape_append_inj`, `escape_append_ne`).  A row of such
pieces is told from any other (`flatMap_append_inj`).  The octets of a mask are listed as a row of
pieces of this kind as well, if each is taken with the comma before it.
-/

namespace AddressMask

/-! ## Rows of pieces -/

section Pieces

variable {α : Type} {stop : Char} {x y : List Char}

/-- What stands in front of the first stop is told from what stands behind it. -/
theorem append_cons_inj {a b : List Char} (ha : stop ∉ a) (hb : stop ∉ b)
    (h : a ++ stop :: x = b ++ stop :: y) : a = b ∧ x = y := by
  have before {a x : List Char} (ha : stop ∉ a) :
      (a ++ stop :: x).takeWhile (· ≠ stop) = a := by
    rw [List.takeWhile_append_of_pos (Text.forall_ne_of_not_mem ha)]
    simp
  obtain rfl : a = b := by rw [← before ha (x := x), h, before hb]
  exact ⟨rfl, (List.cons.inj (List.append_cancel_left h)).2⟩

/-- A row of pieces is told from any other if each piece tells where it ends and none begins with
the stop behind the row. -/
theorem flatMap_append_inj {f : α → List Char}
    (hpiece : ∀ {a b x y}, f a ++ x = f b ++ y → a = b ∧ x = y)
    (hstop : ∀ {a x y}, f a ++ x ≠ stop :: y) {s t : List α}
    (h : s.flatMap f ++ stop :: x = t.flatMap f ++ stop :: y) : s = t ∧ x = y := by
  induction s generalizing t with
  | nil =>
    cases t with
    | nil => exact ⟨rfl, (List.cons.inj h).2⟩
    | cons b t =>
      rw [List.flatMap_cons, List.append_assoc] at h
      exact absurd h.symm hstop
  | cons a s ih =>
    cases t with
    | nil =>
      rw [List.flatMap_cons, List.append_assoc] at h
      exact absurd h hstop
    | cons b t =>
      simp only [List.flatMap_cons, List.append_assoc] at h
      obtain ⟨rfl, hrest⟩ := hpiece h
      obtain ⟨rfl, hxy⟩ := ih hrest
      exact ⟨rfl, hxy⟩

/-- Pieces with a separator between them are pieces with one before each, but for the very
first. -/
theorem append_intercalate (separator : List Char) (f : α → List Char) {row : List α}
    (h : row ≠ []) :
    separator ++ separator.intercalate (row.map f) = row.flatMap fun a => separator ++ f a := by
  cases row with
  | nil => exact absurd rfl h
  | cons a row =>
    rw [List.map_cons, Text.intercalate_cons, List.flatMap_map, List.flatMap_cons,
      List.append_assoc]

end Pieces

/-! ## Numerals -/

namespace Numeral

theorem digitChar_inj_of_lt {m n : Nat} (hm : m < 16) (hn : n < 16)
    (h : Nat.digitChar m = Nat.digitChar n) : m = n := by
  have table : ∀ m < 16, ∀ n < 16, Nat.digitChar m = Nat.digitChar n → m = n := by decide
  exact table m hm n hn h

/-- A numeral tells its number.  The induction takes the last digit off. -/
theorem hex_injective : Function.Injective hex := by
  -- a single digit is no longer numeral
  have single {c d : Char} {n : Nat} : [c] ≠ Nat.toDigits 16 n ++ [d] := by
    intro h
    have hlength := congrArg List.length h
    have hpos : 0 < (Nat.toDigits 16 n).length := Nat.length_toDigits_pos
    rw [List.length_append, List.length_singleton, List.length_singleton] at hlength
    omega
  intro m
  induction m using Nat.strongRecOn with
  | ind m ih =>
    intro n h
    rw [hex, hex, Nat.toDigits_eq_if (by decide), Nat.toDigits_eq_if (n := n) (by decide)] at h
    split at h <;> split at h
    · exact digitChar_inj_of_lt ‹_› ‹_› (List.cons.inj h).1
    · exact absurd h single
    · exact absurd h.symm single
    · obtain ⟨hrest, hlast⟩ := List.append_inj' h rfl
      have hdiv := ih (m / 16) (by omega) hrest
      have hmod := digitChar_inj_of_lt (by omega) (by omega) (List.cons.inj hlast).1
      omega

/-- The brace that closes a numeral is none of its digits. -/
theorem not_mem_hex (n : Nat) : '\x7d' ∉ hex n := by
  have digit : ∀ d < 16, '\x7d' ≠ Nat.digitChar d := by decide
  induction n using Nat.strongRecOn with
  | ind n ih =>
    rw [hex, Nat.toDigits_eq_if (by decide)]
    split
    · exact fun hmem => digit n ‹_› (List.mem_singleton.mp hmem)
    · rintro hmem
      rcases List.mem_append.mp hmem with hrest | hlast
      · exact ih (n / 16) (by omega) hrest
      · exact digit (n % 16) (by omega) (List.mem_singleton.mp hlast)

theorem hexOctet_append_inj {a b : UInt8} {x y : List Char}
    (h : hexOctet a ++ x = hexOctet b ++ y) : a = b ∧ x = y := by
  have ha := a.toNat_lt
  have hb := b.toNat_lt
  simp only [hexOctet, List.cons_append, List.nil_append, List.cons.injEq] at h
  obtain ⟨hhigh, hlow, hxy⟩ := h
  have hdiv := digitChar_inj_of_lt (by omega) (by omega) hhigh
  have hmod := digitChar_inj_of_lt (by omega) (by omega) hlow
  exact ⟨UInt8.toNat_inj.mp (by omega), hxy⟩

/-- A number can be read off its decimal numeral. -/
theorem toString_inj {m n : Nat} (h : toString m = toString n) : m = n := by
  have hdecimal : decimal m = decimal n := by
    rw [Nat.toString_eq_ofList_toDigits, Nat.toString_eq_ofList_toDigits] at h
    exact String.ofList_injective h
  have hvalue := congrArg value? hdecimal
  rw [value?_decimal, value?_decimal] at hvalue
  exact Option.some.inj hvalue

end Numeral

/-! ## Quoted texts -/

namespace Text

/-- The characters that are quoted by a backslash and one more character, with that character. -/
def shortEscapes : List (Char × Char) :=
  [('"', '"'), ('\\', '\\'), ('\n', 'n'), ('\r', 'r'), ('\t', 't'), (Char.ofNat 0, '0')]

/-- A character is quoted as it is, by a short escape, or by its code point. -/
theorem escape_cases (c : Char) :
    (escape c = [c] ∧ c ≠ '"' ∧ c ≠ '\\') ∨
      (∃ k, (c, k) ∈ shortEscapes ∧ escape c = ['\\', k]) ∨
      escape c = '\\' :: 'u' :: '\x7b' :: (Numeral.hex c.toNat ++ ['\x7d']) := by
  by_cases hquote : c = '"' ∨ c = '\\'
  · rcases hquote with rfl | rfl
    · exact Or.inr (Or.inl ⟨'"', by decide, rfl⟩)
    · exact Or.inr (Or.inl ⟨'\\', by decide, rfl⟩)
  by_cases hfeed : c = '\n'
  · subst hfeed
    exact Or.inr (Or.inl ⟨'n', by decide, rfl⟩)
  by_cases hreturn : c = '\r'
  · subst hreturn
    exact Or.inr (Or.inl ⟨'r', by decide, rfl⟩)
  by_cases htab : c = '\t'
  · subst htab
    exact Or.inr (Or.inl ⟨'t', by decide, rfl⟩)
  by_cases hnul : c.toNat = 0
  · obtain rfl : c = Char.ofNat 0 := Char.toNat_inj.mp hnul
    exact Or.inr (Or.inl ⟨'0', by decide, rfl⟩)
  rw [escape, if_neg hquote, if_neg hfeed, if_neg hreturn, if_neg htab, if_neg hnul]
  by_cases hprint : isPrintable c = true
  · rw [if_pos hprint]
    exact Or.inl ⟨rfl, not_or.mp hquote⟩
  · rw [if_neg hprint]
    exact Or.inr (Or.inr rfl)

/-- A quoted character tells where it ends and which it is. -/
theorem escape_append_inj {c d : Char} {x y : List Char} (h : escape c ++ x = escape d ++ y) :
    c = d ∧ x = y := by
  have short_inj : ∀ p ∈ shortEscapes, ∀ q ∈ shortEscapes, p.2 = q.2 → p.1 = q.1 := by decide
  have short_ne : ∀ p ∈ shortEscapes, p.2 ≠ 'u' := by decide
  rcases escape_cases c with ⟨hc, -, hcb⟩ | ⟨k, hk, hc⟩ | hc
  · rcases escape_cases d with ⟨hd, -, -⟩ | ⟨l, -, hd⟩ | hd
    · rw [hc, hd] at h
      exact List.cons.inj h
    · rw [hc, hd] at h
      exact absurd (List.cons.inj h).1 hcb
    · rw [hc, hd] at h
      exact absurd (List.cons.inj h).1 hcb
  · rcases escape_cases d with ⟨hd, -, hdb⟩ | ⟨l, hl, hd⟩ | hd
    · rw [hc, hd] at h
      exact absurd (List.cons.inj h).1.symm hdb
    · rw [hc, hd] at h
      obtain ⟨hkl, hxy⟩ := List.cons.inj (List.cons.inj h).2
      exact ⟨short_inj _ hk _ hl hkl, hxy⟩
    · rw [hc, hd] at h
      exact absurd (List.cons.inj (List.cons.inj h).2).1 (short_ne _ hk)
  · rcases escape_cases d with ⟨hd, -, hdb⟩ | ⟨l, hl, hd⟩ | hd
    · rw [hc, hd] at h
      exact absurd (List.cons.inj h).1.symm hdb
    · rw [hc, hd] at h
      exact absurd (List.cons.inj (List.cons.inj h).2).1.symm (short_ne _ hl)
    · simp only [hc, hd, List.cons_append, List.append_assoc, List.nil_append, List.cons.injEq,
        true_and] at h
      obtain ⟨hhex, hxy⟩ := append_cons_inj (Numeral.not_mem_hex _) (Numeral.not_mem_hex _) h
      exact ⟨Char.toNat_inj.mp (Numeral.hex_injective hhex), hxy⟩

/-- No quoted character begins with a quote. -/
theorem escape_append_ne {c : Char} {x y : List Char} : escape c ++ x ≠ '"' :: y := by
  intro h
  rcases escape_cases c with ⟨hc, hcq, -⟩ | ⟨k, -, hc⟩ | hc
  · rw [hc] at h
    exact hcq (List.cons.inj h).1
  · rw [hc] at h
    exact absurd (List.cons.inj h).1 (by decide)
  · rw [hc] at h
    exact absurd (List.cons.inj h).1 (by decide)

/-- A quoted text tells where it ends and which it is. -/
theorem quoted_append_inj {s t x y : String} (h : quoted s ++ x = quoted t ++ y) :
    s = t ∧ x = y := by
  have hchars := congrArg String.toList h
  simp only [quoted, String.toList_append, String.toList_ofList, List.cons_append,
    List.append_assoc, List.nil_append, List.cons.injEq, true_and] at hchars
  obtain ⟨hst, hxy⟩ := flatMap_append_inj escape_append_inj escape_append_ne hchars
  exact ⟨String.toList_inj.mp hst, String.toList_inj.mp hxy⟩

theorem quoted_injective : Function.Injective quoted := by
  intro s t h
  exact (quoted_append_inj (congrArg (· ++ "") h)).1

/-- A text of printable ASCII characters without quotes and backslashes is quoted as it stands. -/
theorem quoted_of_plain {s : String}
    (h : ∀ c ∈ s.toList, 0x20 ≤ c.toNat ∧ c.toNat < 0x7f ∧ c ≠ '"' ∧ c ≠ '\\') :
    quoted s = "\"" ++ s ++ "\"" := by
  have hescape : s.toList.flatMap escape = s.toList := by
    generalize s.toList = chars at h
    induction chars with
    | nil => rfl
    | cons c chars ih =>
      obtain ⟨hlow, hhigh, hquote, hslash⟩ := h c List.mem_cons_self
      rw [List.flatMap_cons, ih fun d hd => h d (List.mem_cons_of_mem c hd),
        escape_of_isPrintable (isPrintable_of_ascii hlow hhigh) hquote hslash]
      rfl
  rw [quoted, hescape, ← String.toList_inj]
  simp

end Text

/-! ## Sentences -/

/-- The octets of a mask can be read off the list of them. -/
theorem listed_injective {octets octets' : Octets 16}
    (h : ", ".intercalate (octets.toList.map fun b => String.ofList (Numeral.hexOctet b)) =
      ", ".intercalate (octets'.toList.map fun b => String.ofList (Numeral.hexOctet b))) :
    octets = octets' := by
  have hpiece {a b : UInt8} {x y : List Char}
      (h : ([',', ' '] ++ Numeral.hexOctet a) ++ x = ([',', ' '] ++ Numeral.hexOctet b) ++ y) :
      a = b ∧ x = y := by
    rw [List.append_assoc, List.append_assoc] at h
    exact Numeral.hexOctet_append_inj (List.append_cancel_left h)
  have hstop {a : UInt8} {x y : List Char} :
      ([',', ' '] ++ Numeral.hexOctet a) ++ x ≠ ']' :: y := by
    intro h
    exact absurd (List.cons.inj h).1 (by decide)
  have hrow (octets : Octets 16) :
      [',', ' '] ++ (", ".intercalate
          (octets.toList.map fun b => String.ofList (Numeral.hexOctet b))).toList =
        octets.toList.flatMap fun b => [',', ' '] ++ Numeral.hexOctet b := by
    have hne : octets.toList ≠ [] := by
      intro hnil
      have hlength := congrArg List.length hnil
      rw [Vector.length_toList] at hlength
      cases hlength
    rw [← append_intercalate [',', ' '] Numeral.hexOctet hne, String.toList_intercalate,
      List.map_map]
    congr 3
    funext b
    exact String.toList_ofList
  have hflat : octets.toList.flatMap (fun b => [',', ' '] ++ Numeral.hexOctet b) =
      octets'.toList.flatMap fun b => [',', ' '] ++ Numeral.hexOctet b := by
    rw [← hrow octets, h, hrow octets']
  have hlist := (flatMap_append_inj hpiece hstop (congrArg (· ++ [']']) hflat)).1
  exact Vector.toList_inj.mp hlist

namespace Event

/-- The first letters of a sentence, by the kind of the event. -/
def opening : Event → String
  | .nonPrefix _ => "non-pref"
  | .binaryLength _ => "binary m"
  | .textLength _ => "text mas"
  | .fieldCount _ _ => "dotted m"
  | .invalidDigit _ => "invalid "
  | .octetOutOfRange _ => "dotted f"

theorem take_message (e : Event) : e.message.toList.take 8 = e.opening.toList := by
  have front {s t : String} (h : 8 ≤ s.toList.length) :
      (s ++ t).toList.take 8 = s.toList.take 8 := by
    rw [String.toList_append, List.take_append_of_le_length h]
  cases e with
  | nonPrefix _ =>
    rw [message_nonPrefix, String.append_assoc, front (by decide), opening]
    rfl
  | binaryLength _ =>
    rw [message_binaryLength, front (by decide), opening]
    rfl
  | textLength _ =>
    rw [message_textLength, front (by decide), opening]
    rfl
  | fieldCount _ _ =>
    rw [message_fieldCount, String.append_assoc, String.append_assoc, String.append_assoc,
      front (by decide), opening]
    rfl
  | invalidDigit _ =>
    rw [message_invalidDigit, front (by decide), opening]
    rfl
  | octetOutOfRange _ =>
    rw [message_octetOutOfRange, String.append_assoc, front (by decide), opening]
    rfl

/-- **A sentence tells what happened.**  No two events have the same, so that the octets, the
length, the number of fields and the quoted text or field can be read off it. -/
theorem message_injective : Function.Injective message := by
  intro e f h
  have hopening : e.opening = f.opening := by
    rw [← String.toList_inj, ← take_message, h, take_message]
  -- kinds with the same opening are the same, which leaves the evidence to compare
  cases e with
  | nonPrefix octets =>
    cases f with
    | nonPrefix octets' =>
      rw [message_nonPrefix, message_nonPrefix, String.append_left_inj,
        String.append_right_inj] at h
      rw [listed_injective h]
    | _ => simp [opening] at hopening
  | binaryLength length =>
    cases f with
    | binaryLength length' =>
      rw [message_binaryLength, message_binaryLength, String.append_right_inj] at h
      rw [Numeral.toString_inj h]
    | _ => simp [opening] at hopening
  | textLength length =>
    cases f with
    | textLength length' =>
      rw [message_textLength, message_textLength, String.append_right_inj] at h
      rw [Numeral.toString_inj h]
    | _ => simp [opening] at hopening
  | fieldCount text found =>
    cases f with
    | fieldCount text' found' =>
      simp only [message_fieldCount, String.append_assoc, String.append_right_inj] at h
      obtain ⟨rfl, hfound⟩ := Text.quoted_append_inj h
      rw [String.append_right_inj, String.append_left_inj] at hfound
      rw [Numeral.toString_inj hfound]
    | _ => simp [opening] at hopening
  | invalidDigit field =>
    cases f with
    | invalidDigit field' =>
      rw [message_invalidDigit, message_invalidDigit, String.append_right_inj] at h
      rw [Text.quoted_injective h]
    | _ => simp [opening] at hopening
  | octetOutOfRange field =>
    cases f with
    | octetOutOfRange field' =>
      rw [message_octetOutOfRange, message_octetOutOfRange, String.append_left_inj,
        String.append_right_inj] at h
      rw [Text.quoted_injective h]
    | _ => simp [opening] at hopening

end Event

end AddressMask

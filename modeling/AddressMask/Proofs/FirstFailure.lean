/-!
# The first failure is the answer

A text with several fields is read field by field, and reading stops at the first field that cannot
be read.  `FirstFailure` says so without a reader: a list fails for a cause when one of its items
does and every item before that one comes to something.  The two lemmas on `>>=` take a sequence of
readings apart, one reading at a time, into the same shape.
-/

namespace AddressMask

variable {ε α β : Type}

/-- A sequence of two readings comes to something iff both do. -/
theorem bind_eq_ok_iff {x : Except ε α} {f : α → Except ε β} {b : β} :
    x >>= f = .ok b ↔ ∃ a, x = .ok a ∧ f a = .ok b := by
  cases x with
  | error e =>
    constructor
    · intro h
      cases h
    · rintro ⟨_, h, _⟩
      cases h
  | ok a =>
    constructor
    · intro h
      exact ⟨a, rfl, h⟩
    · rintro ⟨a', ha, h⟩
      cases ha
      exact h

/-- A sequence of two readings fails with the first, or with the second if the first does not. -/
theorem bind_eq_error_iff {x : Except ε α} {f : α → Except ε β} {e : ε} :
    x >>= f = .error e ↔ x = .error e ∨ ∃ a, x = .ok a ∧ f a = .error e := by
  cases x with
  | error e' =>
    constructor
    · intro h
      cases h
      exact Or.inl rfl
    · rintro (h | ⟨_, h, _⟩)
      · cases h
        rfl
      · cases h
  | ok a =>
    constructor
    · intro h
      exact Or.inr ⟨a, rfl, h⟩
    · rintro (h | ⟨a', ha, h⟩)
      · cases h
      · cases ha
        exact h

/-- Naming a failure anew changes nothing of what is read. -/
theorem mapError_eq_ok_iff {ε' : Type} {x : Except ε α} {f : ε → ε'} {a : α} :
    x.mapError f = .ok a ↔ x = .ok a := by
  cases x with
  | error e =>
    constructor
    · intro h
      cases h
    · intro h
      cases h
  | ok a' =>
    constructor
    · intro h
      cases h
      rfl
    · intro h
      cases h
      rfl

/-- What was written item by item is read item by item. -/
theorem mapM_map_eq_ok {read : β → Except ε α} {write : α → β} {items : List α}
    (h : ∀ x ∈ items, read (write x) = .ok x) : (items.map write).mapM read = .ok items := by
  induction items with
  | nil => rfl
  | cons x items ih =>
    have hitems := ih fun y hy => h y (List.mem_cons_of_mem x hy)
    rw [List.map_cons, List.mapM_cons, h x List.mem_cons_self, hitems]
    rfl

/-- The leftmost item that fails does so for the given cause: `comesTo x r` says that `r` comes of
the item `x`. -/
inductive FirstFailure (comesTo : α → Except ε β → Prop) : List α → ε → Prop
  | here {x : α} {xs : List α} {e : ε} (h : comesTo x (.error e)) : FirstFailure comesTo (x :: xs) e
  | later {x : α} {xs : List α} {b : β} {e : ε} (h : comesTo x (.ok b))
      (hxs : FirstFailure comesTo xs e) : FirstFailure comesTo (x :: xs) e

namespace FirstFailure

variable {comesTo : α → Except ε β → Prop}

@[simp] theorem nil_iff {e : ε} : FirstFailure comesTo [] e ↔ False :=
  ⟨fun h => (nomatch h), False.elim⟩

theorem cons_iff {x : α} {xs : List α} {e : ε} :
    FirstFailure comesTo (x :: xs) e ↔
      comesTo x (.error e) ∨ ∃ b, comesTo x (.ok b) ∧ FirstFailure comesTo xs e := by
  constructor
  · intro h
    cases h with
    | here h => exact Or.inl h
    | later h hxs => exact Or.inr ⟨_, h, hxs⟩
  · rintro (h | ⟨b, h, hxs⟩)
    · exact .here h
    · exact .later h hxs

/-- The item that fails is one of the list. -/
theorem exists_error {xs : List α} {e : ε} (h : FirstFailure comesTo xs e) :
    ∃ x ∈ xs, comesTo x (.error e) := by
  induction h with
  | here h => exact ⟨_, List.mem_cons_self, h⟩
  | later _ _ ih =>
    obtain ⟨x, hx, herror⟩ := ih
    exact ⟨x, List.mem_cons_of_mem _ hx, herror⟩

/-- What comes of each item may be told in other words, if a failure stays one. -/
theorem imp {ε' : Type} {comesTo' : α → Except ε' β → Prop} {xs : List α} {e : ε} {e' : ε'}
    (hok : ∀ x b, comesTo x (.ok b) → comesTo' x (.ok b))
    (herror : ∀ x, comesTo x (.error e) → comesTo' x (.error e'))
    (h : FirstFailure comesTo xs e) : FirstFailure comesTo' xs e' := by
  induction h with
  | here h => exact .here (herror _ h)
  | later h _ ih => exact .later (hok _ _ h) (ih herror)

end FirstFailure

end AddressMask

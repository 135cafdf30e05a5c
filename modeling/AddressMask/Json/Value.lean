/-!
# JSON values

The values that masks are exchanged in. A number keeps what its text said it was: an integer, or a
real in double precision. The members of an object stand in the order in which they were written.
-/

namespace AddressMask

/-- A JSON value. -/
inductive Json where
  | null
  | boolean (b : Bool)
  | integer (n : Int)
  | real (x : Float)
  | string (s : String)
  | array (items : List Json)
  | object (members : List (String × Json))
  deriving Inhabited

namespace Json

/-- The member of an object with the given name. Of several the last one counts. -/
def member? (name : String) : Json → Option Json
  | .object members => (members.reverse.find? (·.1 == name)).map (·.2)
  | _ => none

/-- The list of integers that an array of integers holds. -/
def integers? : Json → Option (List Int)
  | .array items => items.mapM fun
    | .integer n => some n
    | _ => none
  | _ => none

/-- The values that a text tells exactly, with arrays and objects nested at most `depth` deep. A real
is not among them, and an integer only if it has 64 bits. -/
inductive Exact : (depth : Nat) → Json → Prop
  | null {depth : Nat} : Exact depth .null
  | boolean {depth : Nat} (b : Bool) : Exact depth (.boolean b)
  | integer {depth : Nat} {n : Int} (hlow : -(UInt64.size / 2 : Nat) ≤ n)
      (hhigh : n < UInt64.size) : Exact depth (.integer n)
  | string {depth : Nat} (s : String) : Exact depth (.string s)
  | array {depth : Nat} {items : List Json} (h : ∀ item ∈ items, Exact depth item) :
      Exact (depth + 1) (.array items)
  | object {depth : Nat} {members : List (String × Json)}
      (h : ∀ member ∈ members, Exact depth member.2) : Exact (depth + 1) (.object members)

end Json

end AddressMask

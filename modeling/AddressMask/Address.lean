import AddressMask.Bytes
import AddressMask.Numeral

/-!
# Addresses

An address of either family is its octets. Two texts are defined: dotted decimal for four octets
and, for sixteen, eight hexadecimal groups in which the longest run of zero groups is left out.
-/

namespace AddressMask

/-- An address of one of the two families. -/
inductive Address where
  | ipv4 (octets : Octets 4)
  | ipv6 (octets : Octets 16)
  deriving DecidableEq, Repr

namespace Address

/-- The octets of an address, in network order. -/
def toBytes : Address → Bytes
  | .ipv4 octets => octets.toList
  | .ipv6 octets => octets.toList

@[simp] theorem toBytes_ipv4 (octets : Octets 4) : (Address.ipv4 octets).toBytes = octets.toList := rfl

@[simp] theorem toBytes_ipv6 (octets : Octets 16) : (Address.ipv6 octets).toBytes = octets.toList := rfl

/-! ### Groups -/

/-- The sixteen octets of eight 16-bit groups, the most significant group and octet first. -/
def octetsOfGroups (groups : Vector UInt16 8) : Octets 16 :=
  Vector.ofFn fun i : Fin 16 =>
    let group := (groups[i.val / 2]).toNat
    UInt8.ofNat (if i.val % 2 = 0 then group / 256 else group % 256)

/-- The groups of a byte string, two octets each. -/
def groups : Bytes → List Nat
  | high :: low :: rest => (256 * high.toNat + low.toNat) :: groups rest
  | _ => []

/-- For each position, the length of the run of zero groups that starts there. -/
def zeroRuns : List Nat → List Nat
  | [] => []
  | group :: rest =>
    let runs := zeroRuns rest
    (if group = 0 then runs.headD 0 + 1 else 0) :: runs

/-- Groups in hexadecimal with colons between them. -/
def colonSeparated (groups : List Nat) : List Char :=
  ((groups.map Numeral.hex).intersperse [':']).flatten

/-- The text of eight groups. Two colons stand for the longest run of two or more zero groups, the
first of several. -/
def groupsText (groups : List Nat) : List Char :=
  let runs := zeroRuns groups
  let longest := runs.foldl max 0
  if longest < 2 then colonSeparated groups
  else
    let start := runs.idxOf longest
    colonSeparated (groups.take start) ++ ':' :: ':' ::
      colonSeparated (groups.drop (start + longest))

/-- Octets in decimal with points between them. -/
def dotted (bytes : Bytes) : List Char :=
  ((bytes.map fun b => Numeral.decimal b.toNat).intersperse ['.']).flatten

/-- The usual text of an address. -/
def text : Address → String
  | .ipv4 octets => String.ofList (dotted octets.toList)
  | .ipv6 octets => String.ofList (groupsText (groups octets.toList))

instance : ToString Address := ⟨text⟩

example : groupsText [0xffff, 0xff00, 0, 0, 0, 0, 0, 0] = "ffff:ff00::".toList := by decide +kernel
example : groupsText [0xffff, 0, 0xffff, 0, 0, 1, 0, 0] = "ffff:0:ffff::1:0:0".toList := by
  decide +kernel

end Address

end AddressMask

import AddressMask.Address
import AddressMask.PrefixLength

/-!
# Masks

A mask says which bits of an address name its network. There are two families. A mask for IPv4 is
any pattern of 32 bits, though usually a prefix; a mask for IPv6 is always a prefix and is kept as
its length. Beside them stands one invalid mask, which is the default and which the constructors
answer with when there is no such mask: they never fail.

The length of an IPv6 mask is kept in one octet, which has room for lengths that no address has. A
count of ones is cut down to an octet where a mask is made of it, and nothing is checked at that
place: that no length above 128 is ever kept is a law about everything that makes masks.
-/

namespace AddressMask

/-- A network mask, or the invalid mask. -/
inductive Mask where
  | invalid
  /-- A pattern of 32 bits, by the octets of its word (`Octets.ofWord`). -/
  | ipv4 (octets : Octets 4)
  /-- A prefix of 128 bits, by its length. -/
  | ipv6 (length : UInt8)
  deriving DecidableEq

namespace Mask

instance : Inhabited Mask := ⟨.invalid⟩

/-! ### Prefixes as masks -/

/-- The mask of `ones` leading ones in `total` bits (`from_prefix`). Invalid unless `total` is 32 or
128 and `ones` lies between zero and `total`. The count is cut down to an octet. -/
def ofPrefix (ones total : Int) : Mask :=
  if 0 ≤ ones ∧ ones ≤ total then
    let count := UInt8.ofNat ones.toNat
    if total = 32 then .ipv4 (Octets.ofPrefix 4 count.toNat)
    else if total = 128 then .ipv6 count
    else .invalid
  else .invalid

/-- A count of ones in 128 bits is kept as it is, up to 128. -/
theorem ofPrefix_natCast_128 (n : Nat) :
    ofPrefix n 128 = if n ≤ 128 then .ipv6 (UInt8.ofNat n) else .invalid := by
  unfold ofPrefix
  by_cases h : n ≤ 128
  · rw [if_pos h, if_pos ⟨by omega, by omega⟩]
    rfl
  · rw [if_neg h, if_neg (by omega)]

/-! ### Questions to a mask -/

/-- Whether there is a mask at all (`is_valid`). -/
def isValid : Mask → Bool
  | .invalid => false
  | _ => true

/-- Whether this is a mask for IPv4 (`is_ipv4`). -/
def isIPv4 : Mask → Bool
  | .ipv4 _ => true
  | _ => false

/-- Whether this is a mask for IPv6 (`is_ipv6`). -/
def isIPv6 : Mask → Bool
  | .ipv6 _ => true
  | _ => false

/-- The length of the prefix that a mask is (`prefix_len`). An IPv4 mask need not be one. -/
def prefixLength? : Mask → Option Nat
  | .invalid => none
  | .ipv4 octets => Bytes.prefixLength? octets.toList
  | .ipv6 length => some length.toNat

/-- The length of the prefix that a mask is, or -1 if it is none (`bits`). -/
def bits (m : Mask) : Int :=
  match m.prefixLength? with
  | some length => length
  | none => -1

/-! ### A mask as octets -/

/-- The four octets of an IPv4 mask (`to_ipv4_bytes`). -/
def ipv4Octets? : Mask → Option (Octets 4)
  | .ipv4 octets => some octets
  | _ => none

/-- The sixteen octets of an IPv6 mask (`to_ipv6_bytes`). -/
def ipv6Octets? : Mask → Option (Octets 16)
  | .ipv6 length => some (Octets.ofPrefix 16 length.toNat)
  | _ => none

/-- The octets of a mask as they are laid over an address; none for the invalid mask
(`as_bytes`). -/
def toBytes : Mask → Bytes
  | .invalid => []
  | .ipv4 octets => octets.toList
  | .ipv6 length => Bytes.ofPrefix 16 length.toNat

/-- The mask in the shape of an address (`to_ip_addr`). -/
def toAddress? : Mask → Option Address
  | .invalid => none
  | .ipv4 octets => some (.ipv4 octets)
  | .ipv6 length => some (.ipv6 (Octets.ofPrefix 16 length.toNat))

theorem isValid_eq_false_iff {m : Mask} : m.isValid = false ↔ m = .invalid := by
  cases m with
  | invalid => exact iff_of_true rfl rfl
  | ipv4 octets => exact iff_of_false nofun nofun
  | ipv6 length => exact iff_of_false nofun nofun

@[simp] theorem toBytes_invalid : toBytes .invalid = [] := rfl

@[simp] theorem toBytes_ipv4 (octets : Octets 4) : toBytes (.ipv4 octets) = octets.toList := rfl

@[simp] theorem toBytes_ipv6 (length : UInt8) :
    toBytes (.ipv6 length) = Bytes.ofPrefix 16 length.toNat := rfl

@[simp] theorem prefixLength?_invalid : prefixLength? .invalid = none := rfl

@[simp] theorem prefixLength?_ipv4 (octets : Octets 4) :
    prefixLength? (.ipv4 octets) = Bytes.prefixLength? octets.toList := rfl

@[simp] theorem prefixLength?_ipv6 (length : UInt8) :
    prefixLength? (.ipv6 length) = some length.toNat := rfl

example : (ofPrefix 24 32).toBytes = [255, 255, 255, 0] := by decide
example : ofPrefix 33 32 = .invalid := by decide
example : (Mask.ipv4 #v[0x55, 0, 0, 0]).bits = -1 := by decide

end Mask

end AddressMask

import AddressMask.Log
import AddressMask.Mask.Basic

/-!
# Masks from raw octets

Octets as they are laid over an address: four give the IPv4 mask of that pattern, sixteen give the
IPv6 mask of that prefix, or the invalid mask if they are no prefix, which is recorded. A byte
string of any other length is neither. An address of one family is read by its octets, and an address
of either family as one of its own.
-/

namespace AddressMask.Mask

/-- Reads sixteen octets (`from_ipv6_bytes`). The length of a prefix is kept as it is found; a
pattern that is no prefix is recorded and gives the invalid mask. -/
def readIPv6 (octets : Octets 16) : Logged Mask :=
  match Bytes.prefixLength? octets.toList with
  | some length => pure (.ipv6 (UInt8.ofNat length))
  | none => do
    Logged.record (.nonPrefix octets)
    pure .invalid

/-- Reads four or sixteen octets (`from_bytes`); a byte string of another length is no raw mask. -/
def readBytes? (bytes : Bytes) : Logged (Option Mask) :=
  match Octets.ofBytes? 4 bytes, Octets.ofBytes? 16 bytes with
  | some octets, _ => pure (some (.ipv4 octets))
  | none, some octets => some <$> readIPv6 octets
  | none, none => pure none

/-- Reads an IPv4 address, given by its octets (`From<Ipv4Addr>`). -/
def readIPv4Address (octets : Octets 4) : Logged Mask := pure (.ipv4 octets)

/-- Reads an IPv6 address, given by its octets (`From<Ipv6Addr>`). -/
def readIPv6Address (octets : Octets 16) : Logged Mask := readIPv6 octets

/-- Reads an address of either family (`From<IpAddr>`). -/
def readAddress : Address → Logged Mask
  | .ipv4 octets => readIPv4Address octets
  | .ipv6 octets => readIPv6Address octets

/-- The mask of sixteen octets. -/
def ofIPv6 (octets : Octets 16) : Mask := (readIPv6 octets).value

/-- The mask of four or sixteen octets. -/
def ofBytes? (bytes : Bytes) : Option Mask := (readBytes? bytes).value

/-- The mask with the octets of an IPv4 address. -/
def ofIPv4Address (octets : Octets 4) : Mask := (readIPv4Address octets).value

/-- The mask with the octets of an IPv6 address. -/
def ofIPv6Address (octets : Octets 16) : Mask := (readIPv6Address octets).value

/-- The mask with the octets of an address. -/
def ofAddress (address : Address) : Mask := (readAddress address).value

@[simp] theorem ofAddress_ipv4 (octets : Octets 4) : ofAddress (.ipv4 octets) = .ipv4 octets := rfl

@[simp] theorem ofAddress_ipv6 (octets : Octets 16) : ofAddress (.ipv6 octets) = ofIPv6 octets := rfl

@[simp] theorem ofBytes?_toList_ipv4 (octets : Octets 4) :
    ofBytes? octets.toList = some (.ipv4 octets) := by
  simp [ofBytes?, readBytes?]

example : ofBytes? (List.replicate 16 1) = some .invalid := by decide
example : ofBytes? [255, 255, 0, 0, 0] = none := by decide

end AddressMask.Mask

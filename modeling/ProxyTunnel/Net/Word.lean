/-!
# Bytes of numbers and blocks

Port numbers and the groups of IPv6 addresses are sent as two bytes, the high one first. Blocks of
two or four bytes are taken apart into their bytes.
-/

namespace ProxyTunnel.Net.Word

/-- The number of two bytes. -/
def ofBytes (hi lo : UInt8) : UInt16 := UInt16.ofNat (hi.toNat * 256 + lo.toNat)

/-- The two bytes of a number. -/
def bytes (w : UInt16) : List UInt8 := [UInt8.ofNat (w.toNat / 256), UInt8.ofNat w.toNat]

/-- The bytes of a block of two. -/
def pair (v : Vector UInt8 2) : UInt8 × UInt8 := (v[0], v[1])

/-- The bytes of a block of four. -/
def quad (v : Vector UInt8 4) : UInt8 × UInt8 × UInt8 × UInt8 := (v[0], v[1], v[2], v[3])

theorem length_bytes (w : UInt16) : (bytes w).length = 2 := rfl

end ProxyTunnel.Net.Word

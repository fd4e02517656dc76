import Mathlib.Algebra.GroupWithZero.Nat

/-!
# Internet addresses

Addresses of both versions, the blocks of addresses that share their first bits, and the
blocks that are set aside for a special purpose and are not reached over the public
network.
-/

structure AddressBlock (width : ℕ) where
  (base length : ℕ)

def AddressBlock.contains {width : ℕ} (block : AddressBlock width) (address : ℕ) : Bool :=
  address / 2 ^ (width - block.length) == block.base / 2 ^ (width - block.length)

/-! ## Version four -/

instance neZero_256 : NeZero 256 := ⟨by decide⟩

structure Ipv4Addr where
  (a b c d : Fin 256)
deriving DecidableEq

namespace Ipv4Addr

def toNat (ip : Ipv4Addr) : ℕ := ((ip.a.val * 256 + ip.b.val) * 256 + ip.c.val) * 256 + ip.d.val

def ofNat (n : ℕ) : Ipv4Addr :=
  ⟨Fin.ofNat 256 (n / 2 ^ 24), Fin.ofNat 256 (n / 2 ^ 16), Fin.ofNat 256 (n / 2 ^ 8),
    Fin.ofNat 256 n⟩

def block (a b c length : ℕ) : AddressBlock 32 := ⟨((a * 256 + b) * 256 + c) * 256, length⟩

def unroutableBlocks : List (AddressBlock 32) :=
  [block 0 0 0 8, block 10 0 0 8, block 100 64 0 10, block 127 0 0 8, block 169 254 0 16,
   block 172 16 0 12, block 192 0 0 24, block 192 0 2 24, block 192 168 0 16,
   block 198 18 0 15, block 198 51 100 24, block 203 0 113 24, block 224 0 0 4,
   block 240 0 0 4]

/-- Outside the blocks of the IANA registry of special-purpose IPv4 addresses. -/
def publiclyRoutable (ip : Ipv4Addr) : Bool := !unroutableBlocks.any (·.contains ip.toNat)

end Ipv4Addr

/-! ## Version six -/

structure Ipv6Addr where
  value : Fin (2 ^ 128)
deriving DecidableEq

namespace Ipv6Addr

def block (a b c d length : ℕ) : AddressBlock 128 :=
  ⟨(((a * 2 ^ 16 + b) * 2 ^ 16 + c) * 2 ^ 16 + d) * 2 ^ 64, length⟩

variable (ip : Ipv6Addr)

def isLoopback : Bool := ip.value.val == 1
def isUniqueLocal : Bool := (block 0xfc00 0 0 0 7).contains ip.value.val
def isUnicastLinkLocal : Bool := (block 0xfe80 0 0 0 10).contains ip.value.val
def isMulticast : Bool := (block 0xff00 0 0 0 8).contains ip.value.val

def toIpv4Mapped : Option Ipv4Addr :=
  if ip.value.val / 2 ^ 32 = 0xffff then some (.ofNat ip.value.val) else none

def toIpv4 : Option Ipv4Addr :=
  if ip.value.val / 2 ^ 32 = 0 ∨ ip.value.val / 2 ^ 32 = 0xffff then
    some (.ofNat ip.value.val)
  else none

def specialBlocks : List (AddressBlock 128) :=
  [block 0x64 0xff9b 1 0 48, block 0x100 0 0 0 64, block 0x100 0 0 1 64,
   block 0x2001 0 0 0 23, block 0x2001 0xdb8 0 0 32, block 0x3fff 0 0 0 20,
   block 0x2002 0 0 0 16, block 0x5f00 0 0 0 16, block 0xfec0 0 0 0 10]

def publicAssignments : List (AddressBlock 128) :=
  [⟨(block 0x2001 1 0 0 128).base + 1, 128⟩, ⟨(block 0x2001 1 0 0 128).base + 2, 128⟩,
   block 0x2001 3 0 0 32, block 0x2001 4 0x112 0 48, block 0x2001 0x20 0 0 28,
   block 0x2001 0x30 0 0 28]

def inSpecialBlock : Bool :=
  specialBlocks.any (·.contains ip.value.val) && !publicAssignments.any (·.contains ip.value.val)

/-- Outside the blocks of the IANA registry of special-purpose IPv6 addresses that are not
globally reachable. A mapped IPv4 address counts as itself; 64:ff9b::/96 is globally reachable in
the registry, whatever address it embeds. -/
def publiclyRoutable (ip : Ipv6Addr) : Bool :=
  match ip.toIpv4Mapped with
  | some carried => carried.publiclyRoutable
  | none =>
    !(ip.value.val == 0 || ip.isLoopback || ip.isUniqueLocal || ip.isUnicastLinkLocal
      || ip.isMulticast || ip.inSpecialBlock)

end Ipv6Addr

inductive IpAddr where
  | v4 (ip : Ipv4Addr)
  | v6 (ip : Ipv6Addr)
deriving DecidableEq

def IpAddr.publiclyRoutable : IpAddr → Bool
  | v4 ip => ip.publiclyRoutable
  | v6 ip => ip.publiclyRoutable

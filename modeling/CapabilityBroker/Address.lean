/-
CapabilityBroker/Address.lean

Virtual and physical addresses, and the arithmetic of pages.

The two kinds of address are different types over the same 64-bit word.
Every operation that can leave the word answers an `Option`, with nothing
for an overflow.  Rounding comes in two forms that are used side by side:
`roundUpToPage` clears the low bits after an addition, `alignUp` divides
and multiplies.  They are kept apart because their overflows differ: the
mask form adds a whole page first.
-/
import CapabilityBroker.Word

namespace CapabilityBroker

/-- The native page size in bytes. -/
def pageSize : Nat := 4096

/-! ### Rounding -/

/-- The least page boundary at or above `bytes`, by clearing the offset bits
of a sum one page higher. -/
def roundUpToPage (bytes : UInt64) : Option UInt64 := do
  let above ← word64? (bytes.toNat + pageSize)
  pure ((above - 1) &&& ~~~(4095 : UInt64))

/-- The number of pages that hold `bytes`. -/
def bytesToPages (bytes : UInt64) : Option UInt64 := do
  let rounded ← roundUpToPage bytes
  pure (rounded / 4096)

/-- The number of pages in `mb` mebibytes. -/
def mebibytesToPages (mb : UInt64) : Option UInt64 := do
  let bytes ← word64? (mb.toNat * 1024 * 1024)
  bytesToPages bytes

/-- Whether `align` divides `addr`; an alignment of zero counts as one. -/
def isAligned (addr align : UInt64) : Bool :=
  align ≤ 1 || addr % align == 0

/-- The least multiple of `align` at or above `addr`.  Alignments finer than
a page count as a page. -/
def alignUp (addr align : UInt64) : Option UInt64 :=
  let unit := max align.toNat pageSize
  word64? ((addr.toNat + (unit - 1)) / unit * unit)

/-- The word `pages` pages above `addr`. -/
def addPages (addr : UInt64) (pages : Nat) : Option UInt64 :=
  word64? (addr.toNat + pages * pageSize)

/-! ### Virtual addresses -/

/-- A virtual address inside some component's address space. -/
structure Vaddr where
  word : UInt64
deriving DecidableEq

namespace Vaddr

/-- The address zero, which no mapping uses. -/
def null : Vaddr := ⟨0⟩

/-- The address as a natural number. -/
def toNat (v : Vaddr) : Nat := v.word.toNat

/-- The number of the page that holds the address. -/
def pageNumber (v : Vaddr) : Nat := v.toNat / pageSize

/-- The place of the address inside its page. -/
def offset (v : Vaddr) : Nat := v.toNat % pageSize

def isNull (v : Vaddr) : Bool := v.word == 0

/-- The address `pages` pages above this one. -/
def addPages (v : Vaddr) (pages : Nat) : Option Vaddr :=
  (CapabilityBroker.addPages v.word pages).map Vaddr.mk

def isAligned (v : Vaddr) (align : UInt64) : Bool :=
  CapabilityBroker.isAligned v.word align

/-- The least `align`-aligned address at or above this one. -/
def alignUp (v : Vaddr) (align : UInt64) : Option Vaddr :=
  (CapabilityBroker.alignUp v.word align).map Vaddr.mk

/-- The address `n`, if it fits a word. -/
def ofNat? (n : Nat) : Option Vaddr := (word64? n).map Vaddr.mk

/-- The address in messages. -/
def text (v : Vaddr) : String := "v:0x" ++ hexadecimal v.toNat

end Vaddr

/-! ### Physical addresses -/

/-- A physical address. -/
structure Paddr where
  word : UInt64
deriving DecidableEq

namespace Paddr

/-- The address as a natural number. -/
def toNat (p : Paddr) : Nat := p.word.toNat

def isNull (p : Paddr) : Bool := p.word == 0

/-- The address `pages` frames above this one. -/
def addPages (p : Paddr) (pages : Nat) : Option Paddr :=
  (CapabilityBroker.addPages p.word pages).map Paddr.mk

/-- The address `n`, if it fits a word. -/
def ofNat? (n : Nat) : Option Paddr := (word64? n).map Paddr.mk

/-- The address in messages. -/
def text (p : Paddr) : String := "p:0x" ++ hexadecimal p.toNat

end Paddr

end CapabilityBroker

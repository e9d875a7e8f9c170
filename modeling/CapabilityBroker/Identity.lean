/-
CapabilityBroker/Identity.lean

The names of things: components, cores, threads and entry points.

All of them are 64-bit words given out elsewhere: component ids by the
composer of the system image, thread ids by the kernel, core ids by the
hardware.  Component id 0 stands for "no component".  Each kind of id is a
type of its own, ordered by its number so that tables can be kept by id.
-/
import CapabilityBroker.Word

namespace CapabilityBroker

/-! ### Components -/

/-- A component (protection domain). -/
structure ComponentId where
  number : UInt64
deriving DecidableEq

namespace ComponentId

/-- The id that names no component. -/
def none : ComponentId := ⟨0⟩

/-- Whether the id names a component at all. -/
def isSome (id : ComponentId) : Bool := id.number != 0

/-- The id in messages. -/
def text (id : ComponentId) : String := "Comp(" ++ decimal id.number.toNat ++ ")"

instance : Ord ComponentId := ⟨fun a b => compare a.number b.number⟩

instance : Std.TransOrd ComponentId where
  eq_swap {a b} := Std.OrientedOrd.eq_swap (a := a.number) (b := b.number)
  isLE_trans {a b c} := Std.TransOrd.isLE_trans (a := a.number) (b := b.number) (c := c.number)

instance : Std.LawfulEqOrd ComponentId where
  compare_self {a} := Std.ReflOrd.compare_self (a := a.number)
  eq_of_compare {a b} h := by
    have : a.number = b.number := Std.LawfulEqOrd.eq_of_compare h
    cases a; cases b; simp_all

end ComponentId

/-! ### Cores -/

/-- A processor core. -/
structure CoreId where
  number : UInt64
deriving DecidableEq

namespace CoreId

/-- The id in messages. -/
def text (id : CoreId) : String := "Core(" ++ decimal id.number.toNat ++ ")"

instance : Ord CoreId := ⟨fun a b => compare a.number b.number⟩

instance : Std.TransOrd CoreId where
  eq_swap {a b} := Std.OrientedOrd.eq_swap (a := a.number) (b := b.number)
  isLE_trans {a b c} := Std.TransOrd.isLE_trans (a := a.number) (b := b.number) (c := c.number)

instance : Std.LawfulEqOrd CoreId where
  compare_self {a} := Std.ReflOrd.compare_self (a := a.number)
  eq_of_compare {a b} h := by
    have : a.number = b.number := Std.LawfulEqOrd.eq_of_compare h
    cases a; cases b; simp_all

end CoreId

/-! ### Threads -/

/-- A thread, as the kernel numbers it.  Unlike a capability it grants
nothing. -/
structure ThreadId where
  number : UInt64
deriving DecidableEq

namespace ThreadId

/-- The id in messages. -/
def text (id : ThreadId) : String := "Thd(" ++ decimal id.number.toNat ++ ")"

instance : Ord ThreadId := ⟨fun a b => compare a.number b.number⟩

instance : Std.TransOrd ThreadId where
  eq_swap {a b} := Std.OrientedOrd.eq_swap (a := a.number) (b := b.number)
  isLE_trans {a b c} := Std.TransOrd.isLE_trans (a := a.number) (b := b.number) (c := c.number)

instance : Std.LawfulEqOrd ThreadId where
  compare_self {a} := Std.ReflOrd.compare_self (a := a.number)
  eq_of_compare {a b} h := by
    have : a.number = b.number := Std.LawfulEqOrd.eq_of_compare h
    cases a; cases b; simp_all

end ThreadId

/-! ### Entry points -/

/-- The index of the closure a new thread starts in. -/
structure EntryIndex where
  number : UInt64
deriving DecidableEq

/-- A component's initial entry point. -/
def EntryIndex.initial : EntryIndex := ⟨0⟩

end CapabilityBroker

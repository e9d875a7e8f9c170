/-
CapabilityBroker/Proofs/Kernel/Primitive.lean

The primitives of the kernel as data.

A statement about every sequence of primitives needs them as values.  They are
sorted by what they do to capability tables: those that make something and put
capabilities to it into a table (`Maker`), those that take capabilities back
(`Revocation`), and those that touch no table of a component that is there.  All
of them but the two that map pages leave page tables and heaps alone
(`Primitive.rests`).
-/
import CapabilityBroker.Proofs.Kernel.History
import CapabilityBroker.Proofs.Kernel.Objects

namespace CapabilityBroker.Kernel

open Step (Stays)

/-! ### Calls of primitives -/

/-- A creation or an alias. -/
inductive Maker where
  | createThread (owner : ComponentId)
  | createInitThread (component : ComponentId)
  | aliasThread (thread : Thread) (into : ComponentId)
  | createRcv (owner : ComponentId)
  | createSchedExecution (component : ComponentId)
  | aliasRcv (rcv : Rcv) (into : ComponentId)
  | createAsnd (rcv : Rcv)
  | aliasAsnd (into : ComponentId)

/-- The primitive itself, with the slots that its answer names. -/
def Maker.run : Maker → Step Kernel Refusal (List UInt64)
  | .createThread owner => (fun thread => [thread.cap.slot]) <$> Kernel.createThread owner
  | .createInitThread component =>
    (fun thread => [thread.cap.slot]) <$> Kernel.createInitThread component
  | .aliasThread thread into => (fun cap => [cap.slot]) <$> Kernel.aliasThread thread into
  | .createRcv owner => Rcv.slots <$> Kernel.createRcv owner
  | .createSchedExecution component => Rcv.slots <$> Kernel.createSchedExecution component
  | .aliasRcv rcv into => RcvAliases.slots <$> Kernel.aliasRcv rcv into
  | .createAsnd rcv => (fun asnd => [asnd.cap.slot]) <$> Kernel.createAsnd rcv
  | .aliasAsnd into => (fun cap => [cap.slot]) <$> Kernel.aliasAsnd into

/-- A revocation. -/
inductive Revocation where
  | rcvAlias (aliases : RcvAliases) (owner : ComponentId)
  | rcv (endpoint : Rcv)
  | asnd (endpoint : Asnd)

/-- The primitive itself. -/
def Revocation.run : Revocation → Step Kernel Refusal Unit
  | .rcvAlias aliases owner => revokeRcvAlias aliases owner
  | .rcv endpoint => revokeRcv endpoint
  | .asnd endpoint => revokeAsnd endpoint

/-- A call of any primitive that may change the kernel. -/
inductive Primitive where
  | make (maker : Maker)
  | revoke (revocation : Revocation)
  | createComponent (id : ComponentId) (name : String) (resources : Option Resources)
  | createVmComponent (id : ComponentId) (name : String)
  | reserveFrames (count : Nat)
  | map (call : Call)
  | initUlk
  | mapUlk (component : ComponentId)

namespace Primitive

/-- The primitive itself, whatever it answers. -/
def run : Primitive → Step Kernel Refusal Unit
  | .make maker => (fun _ => ()) <$> maker.run
  | .revoke revocation => revocation.run
  | .createComponent id name resources => Kernel.createComponent id name resources
  | .createVmComponent id name => Kernel.createVmComponent id name
  | .reserveFrames count => (fun _ => ()) <$> Kernel.reserveFrames count
  | .map call => (fun _ => ()) <$> call.run
  | .initUlk => Kernel.initUlk
  | .mapUlk component => Kernel.mapUlk component

/-- The kernel after primitives were called one after the other, whatever each
of them came to. -/
def runAll (primitives : List Primitive) (k : Kernel) : Kernel :=
  primitives.foldl (fun k primitive => primitive.run.final k) k

end Primitive

/-! ### Primitives on objects -/

variable {adds : ComponentId → Prop}

theorem Maker.run_moves (m : Maker) : Stays (ObjectMove adds) m.run := by
  cases m with
  | createThread owner => exact (makes_objectMove.createThread owner).map
  | createInitThread component => exact (makes_objectMove.newThread component).map
  | aliasThread thread into => exact (makes_objectMove.aliasThread thread into).map
  | createRcv owner => exact (makes_objectMove.createRcv owner).map
  | createSchedExecution component => exact (makes_objectMove.newRcv component).map
  | aliasRcv rcv into => exact (makes_objectMove.aliasRcv rcv into).map
  | createAsnd rcv => exact (makes_objectMove.createAsnd rcv).map
  | aliasAsnd into => exact (makes_objectMove.aliasAsnd into).map

theorem Revocation.run_moves (r : Revocation) : Stays (ObjectMove adds) r.run := by
  cases r with
  | rcvAlias aliases owner => exact revokeRcvAlias_moves aliases owner
  | rcv endpoint => exact revokeRcv_moves endpoint
  | asnd endpoint => exact revokeAsnd_moves endpoint

/-- Unless it maps pages, a primitive leaves page tables and heaps alone. -/
theorem Primitive.rests (p : Primitive) (hp : ∀ c, p ≠ .map c) : Stays Rests p.run := by
  have hrests : ∀ {s : Step Kernel Refusal Unit}, Stays (ObjectMove fun _ => True) s →
      Stays Rests s := fun hs k => (hs k).mono (fun _ _ h => h.rests) fun _ _ h => h.rests
  cases p with
  | make maker => exact hrests maker.run_moves.map
  | revoke revocation => exact hrests revocation.run_moves
  | createComponent id name resources =>
    have hmoves : Stays (ObjectMove fun _ => True) (Kernel.createComponent id name resources) :=
      fun _ => (createComponent_moves trivial _ _).mono (fun _ _ => And.left) fun _ _ h => h
    exact hrests hmoves
  | createVmComponent id name =>
    have hmoves : Stays (ObjectMove fun _ => True) (Kernel.createVmComponent id name) := by
      intro k
      refine (createVmComponent_moves trivial name).mono (fun _ _ => And.left) ?_
      rintro why _ rfl
      exact .refl _
    exact hrests hmoves
  | reserveFrames count => exact (reserveFrames_rests count).map
  | map call => exact absurd rfl (hp call)
  | initUlk => exact hrests initUlk_moves
  | mapUlk component => exact hrests (mapUlk_moves component)

end CapabilityBroker.Kernel

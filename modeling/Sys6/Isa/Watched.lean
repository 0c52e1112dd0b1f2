import Sys6.Isa.BusMap

/-!
# Watched buses

A bus that keeps a record of the accesses made through it, and is otherwise the bus it
watches. What is recorded of an access is up to the observer, who sees the bus before it.
-/

namespace Sys6

variable {β ε : Type}

/-- A bus together with what `onRead` and `onWrite` have noted of its accesses. -/
structure Watched (onRead : β → Word → List ε) (onWrite : β → Word → Byte → List ε) where
  bus : β
  seen : List ε

variable {onRead : β → Word → List ε} {onWrite : β → Word → Byte → List ε} [BusLike β]

instance : BusLike (Watched onRead onWrite) where
  read w addr :=
    ((BusLike.read w.bus addr).1, ⟨(BusLike.read w.bus addr).2, w.seen ++ onRead w.bus addr⟩)
  write w addr val := ⟨BusLike.write w.bus addr val, w.seen ++ onWrite w.bus addr val⟩

namespace Watched

/-- Watching changes nothing. -/
lemma busMap_bus : Isa.BusMap (bus : Watched onRead onWrite → β) := ⟨fun _ _ => rfl, fun _ _ _ => rfl⟩

end Watched

namespace Isa

/-- Every access keeps the property. -/
structure Keeps (I : β → Prop) : Prop where
  read : ∀ b addr, I b → I (BusLike.read b addr).2
  write : ∀ b addr v, I b → I (BusLike.write b addr v)

/-- The buses with a property that no access breaks. -/
@[reducible] def Keeps.bus {I : β → Prop} (h : Keeps I) : BusLike { b : β // I b } where
  read b addr := ((BusLike.read b.1 addr).1, ⟨(BusLike.read b.1 addr).2, h.read b.1 addr b.2⟩)
  write b addr v := ⟨BusLike.write b.1 addr v, h.write b.1 addr v b.2⟩

lemma Keeps.busMap_val {I : β → Prop} (h : Keeps I) :
    letI := h.bus
    BusMap (Subtype.val : { b : β // I b } → β) :=
  letI := h.bus
  ⟨fun _ _ => rfl, fun _ _ _ => rfl⟩

end Isa

end Sys6

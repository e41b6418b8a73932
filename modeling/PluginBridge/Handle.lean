import PluginBridge.Violation

/-! # Handles

The other side of the boundary never sees a value of this side. It sees a handle: a number from one
to `maxHandle`. Zero is no handle, so that it can stand for the absence of one. -/

namespace PluginBridge

/-- The largest handle. -/
def maxHandle : Nat := 255

/-- The number of slots that handles are paired with. -/
def slotCount : Nat := maxHandle + 1

/-- A number that stands for a registered value. -/
structure Handle where
  raw : Nat
  pos : 0 < raw
  le : raw ≤ maxHandle
  deriving DecidableEq

namespace Handle

theorem one_le_maxHandle : 1 ≤ maxHandle := by decide

/-- The first handle. -/
def first : Handle := ⟨1, Nat.one_pos, one_le_maxHandle⟩

/-- The handle of a number. -/
def ofRaw? (n : Nat) : Option Handle :=
  if h : 0 < n ∧ n ≤ maxHandle then some ⟨n, h.1, h.2⟩ else none

/-- Take a number from the other side for a handle. -/
def decode (n : Nat) : Except Violation Handle :=
  match ofRaw? n with
  | some h => .ok h
  | none => .error (.invalidHandle "decode" n)

/-- The slot paired with a handle. -/
def slot (h : Handle) : Fin slotCount :=
  ⟨h.raw - 1, by have := h.le; simp only [slotCount]; omega⟩

/-- Handles with the same number are the same. -/
theorem ext_raw {a b : Handle} (h : a.raw = b.raw) : a = b := by
  cases a; cases b; simp_all

/-- Different handles have different slots. -/
theorem slot_injective {a b : Handle} (h : a.slot = b.slot) : a = b := by
  have hv := congrArg Fin.val h
  simp only [slot] at hv
  have := a.pos; have := b.pos
  exact ext_raw (by omega)

/-- Decoding a handle's number gives the handle back. -/
@[simp] theorem decode_raw (h : Handle) : decode h.raw = .ok h := by
  simp [decode, ofRaw?, h.pos, h.le]

end Handle

instance : Repr Handle where
  reprPrec h _ := repr h.raw

end PluginBridge

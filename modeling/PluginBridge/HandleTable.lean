import PluginBridge.Handle

/-! # The handle table

A table keeps values under handles. Registering takes the smallest free handle, so handles are used
again after they were given back. `get?` is the view of the table: the finite map that it stands
for.
-/

namespace PluginBridge

/-- How many times registering looks through a full table again before it gives up. -/
def registerRounds : Nat := 20

/-- Values kept under handles. -/
structure HandleTable (α : Type) where
  entries : Vector (Option α) maxHandle

namespace Handle

/-- The place of a handle among all handles. -/
def position (h : Handle) : Fin maxHandle :=
  ⟨h.raw - 1, by have := h.le; have := h.pos; omega⟩

/-- The handle at a place. -/
def ofPosition (i : Fin maxHandle) : Handle := ⟨i.val + 1, by omega, by omega⟩

/-- All handles, in increasing order. -/
def all : List Handle := (List.finRange maxHandle).map ofPosition

/-- The handles whose numbers lie between two bounds. -/
def between (first last : Nat) : List Handle :=
  all.filter fun h => decide (first ≤ h.raw) && decide (h.raw ≤ last)

@[simp] theorem position_ofPosition (i : Fin maxHandle) : (ofPosition i).position = i := by
  simp [position, ofPosition]

@[simp] theorem ofPosition_position (h : Handle) : ofPosition h.position = h := by
  apply ext_raw
  have := h.pos
  simp only [ofPosition, position]
  omega

theorem mem_all (h : Handle) : h ∈ all :=
  List.mem_map.mpr ⟨h.position, List.mem_finRange _, ofPosition_position h⟩

end Handle

namespace HandleTable

variable {α : Type}

/-- The table without values. -/
def empty : HandleTable α := ⟨Vector.replicate maxHandle none⟩

/-- The value under a handle. -/
def get? (t : HandleTable α) (h : Handle) : Option α := t.entries[h.position]

/-- The table with another value, or none, under a handle. -/
def put (t : HandleTable α) (h : Handle) (v : Option α) : HandleTable α :=
  ⟨t.entries.set h.position v⟩

/-- The smallest handle without a value. -/
def free? (t : HandleTable α) : Option Handle := Handle.all.find? fun h => (t.get? h).isNone

/-- Put a value under the smallest free handle. -/
def register (t : HandleTable α) (v : α) : Except Violation (Handle × HandleTable α) :=
  match t.free? with
  | some h => .ok (h, t.put h (some v))
  | none => .error (.capacityExhausted registerRounds)

/-- The value under a handle, or the violation of asking for it. -/
def lookup (t : HandleTable α) (h : Handle) : Except Violation α :=
  match t.get? h with
  | some v => .ok v
  | none => .error (.invalidHandle "lookup" h.raw)

/-- Take the value under a handle out of the table. -/
def revoke (t : HandleTable α) (h : Handle) : Except Violation (α × HandleTable α) :=
  match t.get? h with
  | some v => .ok (v, t.put h none)
  | none => .error (.invalidHandle "revoke" h.raw)

/-- The number of handles with a value. -/
def size (t : HandleTable α) : Nat := Handle.all.countP fun h => (t.get? h).isSome

/-- Whether no handle has a value. -/
def isEmpty (t : HandleTable α) : Bool := t.size == 0

/-- The values of the table in the order of their handles. -/
def values (t : HandleTable α) : List α := Handle.all.filterMap t.get?

@[simp] theorem get?_empty (h : Handle) : (empty : HandleTable α).get? h = none := by
  simp [get?, empty]

@[simp] theorem get?_put_self (t : HandleTable α) (h : Handle) (v : Option α) :
    (t.put h v).get? h = v := by
  simp [get?, put]

theorem get?_put_of_ne (t : HandleTable α) {h k : Handle} (v : Option α) (ne : k ≠ h) :
    (t.put h v).get? k = t.get? k := by
  have hp : h.position.val ≠ k.position.val := fun e =>
    ne (by rw [← Handle.ofPosition_position k, ← Handle.ofPosition_position h, Fin.ext e])
  simp [get?, put, Vector.getElem_set_ne, hp]

end HandleTable

end PluginBridge

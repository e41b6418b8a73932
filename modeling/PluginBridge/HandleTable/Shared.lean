import PluginBridge.HandleTable

/-! # Values with several owners

The values of a table are shared: the table is one owner, and callers that looked a value up or that
kept one from before are others. A value counts its owners and lives until none is left. Registering
a value passes the caller's share on to the table, revoking passes the table's share back, looking
it up makes a new share, and a table that goes away gives up every share it holds. -/

namespace PluginBridge

/-- The identity of a shared value. -/
abbrev ValueId := Nat

/-- A value and the number of its owners. -/
structure SharedValue (α : Type) where
  value : α
  owners : Nat
  deriving Repr

/-- A handle table together with the values that it or anybody else has a share in. -/
structure SharedTable (α : Type) where
  table : HandleTable ValueId
  values : List (SharedValue α)

namespace SharedTable

variable {α : Type}

/-- No values at all. -/
def empty : SharedTable α := ⟨HandleTable.empty, []⟩

/-- The number of owners of a value. -/
def owners (t : SharedTable α) (id : ValueId) : Nat := (t.values[id]?).elim 0 SharedValue.owners

/-- The value with an identity. -/
def value? (t : SharedTable α) (id : ValueId) : Option α := (t.values[id]?).map SharedValue.value

/-- Change the number of owners of a value. -/
def adjust (t : SharedTable α) (id : ValueId) (f : Nat → Nat) : SharedTable α :=
  { t with values := t.values.modify id fun v => { v with owners := f v.owners } }

/-- One more owner. -/
def retain (t : SharedTable α) (id : ValueId) : SharedTable α := t.adjust id (· + 1)

/-- One owner less. -/
def release (t : SharedTable α) (id : ValueId) : SharedTable α := t.adjust id (· - 1)

/-- A new value, owned once by the caller. -/
def create (t : SharedTable α) (v : α) : ValueId × SharedTable α :=
  (t.values.length, { t with values := t.values ++ [⟨v, 1⟩] })

/-- Register a value, passing the caller's share on. A table without a free handle gives it up. -/
def register (t : SharedTable α) (id : ValueId) : Except Violation Handle × SharedTable α :=
  match t.table.register id with
  | .ok (h, table) => (.ok h, { t with table })
  | .error v => (.error v, t.release id)

/-- Look a value up. The caller gets a share of it. -/
def lookup (t : SharedTable α) (h : Handle) : Except Violation ValueId × SharedTable α :=
  match t.table.lookup h with
  | .ok id => (.ok id, t.retain id)
  | .error v => (.error v, t)

/-- Take a value out of the table. The caller gets the table's share of it. -/
def revoke (t : SharedTable α) (h : Handle) : Except Violation ValueId × SharedTable α :=
  match t.table.revoke h with
  | .ok (id, table) => (.ok id, { t with table })
  | .error v => (.error v, t)

/-- The table goes away and gives up its shares. -/
def dropTable (t : SharedTable α) : SharedTable α :=
  { t.table.values.foldl release t with table := HandleTable.empty }

end SharedTable

end PluginBridge

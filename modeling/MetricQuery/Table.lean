/-!
# Tables in the order in which they were filled

A table binds each of its keys once.  A key that is bound again keeps its place and takes the new
value.

* `Table`        : the bindings, in order;
* `Table.insert` : one more binding;
* `Table.ofList` : the table of bindings, put in one after the other.
-/

set_option autoImplicit false

namespace MetricQuery

variable {β : Type}

/-- The bindings with one more, at the place of its key or else at the end. -/
def rebind (key : String) (value : β) : List (String × β) → List (String × β)
  | [] => [(key, value)]
  | (k, v) :: rest => if k = key then (key, value) :: rest else (k, v) :: rebind key value rest

/-- A key that is bound already stays where it is, and another comes last. -/
theorem map_fst_rebind (key : String) (value : β) (entries : List (String × β)) :
    (rebind key value entries).map Prod.fst =
      if key ∈ entries.map Prod.fst then entries.map Prod.fst
      else entries.map Prod.fst ++ [key] := by
  induction entries with
  | nil => simp [rebind]
  | cons entry rest ih =>
    obtain ⟨k, v⟩ := entry
    by_cases h : k = key
    · simp [rebind, h]
    · have h' : ¬ key = k := fun e => h e.symm
      simp only [rebind, h, if_false, List.map_cons, ih, List.mem_cons, h', false_or]
      split <;> rfl

/-- Binding keeps the keys apart. -/
theorem nodup_rebind {key : String} {value : β} {entries : List (String × β)}
    (h : (entries.map Prod.fst).Nodup) : ((rebind key value entries).map Prod.fst).Nodup := by
  rw [map_fst_rebind]
  split
  · exact h
  · next fresh =>
    refine List.nodup_append.2 ⟨h, by simp, ?_⟩
    intro k bound k' last same
    rw [List.mem_singleton] at last
    exact fresh (last ▸ same ▸ bound)

/-- Bindings of keys that differ, in order. -/
structure Table (β : Type) where
  entries : List (String × β)
  nodup : (entries.map Prod.fst).Nodup
  deriving DecidableEq

namespace Table

/-- The table without bindings. -/
def empty : Table β := ⟨[], by simp⟩

/-- The table with one more binding. -/
def insert (t : Table β) (key : String) (value : β) : Table β :=
  ⟨rebind key value t.entries, nodup_rebind t.nodup⟩

/-- The table of bindings, put in one after the other. -/
def ofList (entries : List (String × β)) : Table β :=
  entries.foldl (fun t entry => t.insert entry.1 entry.2) empty

end Table

end MetricQuery

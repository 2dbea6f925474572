/-
  Maps from ids, kept in increasing order of the ids.

  A membership record names each node once and lists its nodes by id.  The order is part of the
  record's text, and so of its checksum; keeping it in the type makes equal maps equal records.  A
  set of ids is a map that holds nothing beside them.
-/

namespace QuorumRescue

/-- A finite map from ids, as its entries in increasing order of id. -/
structure IdMap (α : Type) where
  entries : List (UInt64 × α)
  increasing : entries.Pairwise (fun a b => a.1 < b.1)
deriving DecidableEq

/-- A set of ids. -/
abbrev IdSet := IdMap Unit

namespace IdMap

variable {α : Type}

/-- Puts a value under an id; a value that was there is replaced. -/
def putEntry (id : UInt64) (value : α) : List (UInt64 × α) → List (UInt64 × α)
  | [] => [(id, value)]
  | e :: rest =>
      if id < e.1 then (id, value) :: e :: rest
      else if id = e.1 then (id, value) :: rest
      else e :: putEntry id value rest

/-- Putting an entry brings in no other. -/
theorem mem_putEntry {id : UInt64} {value : α} {entries : List (UInt64 × α)} {e : UInt64 × α}
    (h : e ∈ putEntry id value entries) : e = (id, value) ∨ e ∈ entries := by
  induction entries with
  | nil => simpa [putEntry] using h
  | cons b rest ih =>
    simp only [putEntry] at h
    split at h
    · simpa using h
    · split at h
      · rcases List.mem_cons.1 h with h | h
        · exact Or.inl h
        · exact Or.inr (List.mem_cons_of_mem _ h)
      · rcases List.mem_cons.1 h with h | h
        · exact Or.inr (h ▸ List.mem_cons_self)
        · rcases ih h with h | h
          · exact Or.inl h
          · exact Or.inr (List.mem_cons_of_mem _ h)

/-- The ids of the entries ascend afterwards if they did before. -/
theorem pairwise_putEntry (id : UInt64) (value : α) {entries : List (UInt64 × α)}
    (h : entries.Pairwise (fun a b => a.1 < b.1)) :
    (putEntry id value entries).Pairwise (fun a b => a.1 < b.1) := by
  induction entries with
  | nil => simp [putEntry]
  | cons b rest ih =>
    obtain ⟨hb, hrest⟩ := List.pairwise_cons.1 h
    simp only [putEntry]
    split
    · next hlt =>
      refine List.pairwise_cons.2 ⟨fun x hx => ?_, h⟩
      rcases List.mem_cons.1 hx with rfl | hx
      · exact hlt
      · exact UInt64.lt_trans hlt (hb x hx)
    · split
      · next _ heq => exact List.pairwise_cons.2 ⟨fun x hx => heq ▸ hb x hx, hrest⟩
      · next hnlt hne =>
        refine List.pairwise_cons.2 ⟨fun x hx => ?_, ih hrest⟩
        rcases mem_putEntry hx with rfl | hx
        · exact UInt64.lt_of_le_of_ne (UInt64.not_lt.1 hnlt) (fun e => hne e.symm)
        · exact hb x hx

/-- The map without entries. -/
def empty : IdMap α := ⟨[], List.Pairwise.nil⟩

/-- The map with `value` under `id`. -/
def put (map : IdMap α) (id : UInt64) (value : α) : IdMap α :=
  ⟨putEntry id value map.entries, pairwise_putEntry id value map.increasing⟩

/-- The map of a list of pairs; of several values under one id the last counts. -/
def ofList (pairs : List (UInt64 × α)) : IdMap α :=
  pairs.foldl (fun map e => map.put e.1 e.2) empty

/-- The ids in increasing order. -/
def ids (map : IdMap α) : List UInt64 := map.entries.map (·.1)

end IdMap

/-- The set of the ids in a list. -/
def IdSet.ofList (ids : List UInt64) : IdSet := IdMap.ofList (ids.map fun id => (id, ()))

example : (IdSet.ofList [3, 1, 3, 2]).ids = [1, 2, 3] := by decide

end QuorumRescue

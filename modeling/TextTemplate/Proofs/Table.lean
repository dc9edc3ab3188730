import Mathlib.Data.Set.Card
import TextTemplate.Table

/-!
# The size of a table

A table is a list of pairs, and its size is the length of the list. That this is also the number of
keys that have a value needs keys that are written once only: writing at a key takes its old pair
out before the new one goes in, so no key ever comes twice.
-/

namespace TextTemplate

namespace Table

variable {β : Type} {table : Table β}

/-- No key is written twice. -/
def HasDistinctKeys (table : Table β) : Prop := (table.entries.map Prod.fst).Nodup

theorem hasDistinctKeys_empty : (empty : Table β).HasDistinctKeys := List.nodup_nil

theorem HasDistinctKeys.erase (h : table.HasDistinctKeys) (key : Text) :
    (table.erase key).HasDistinctKeys :=
  h.sublist (List.filter_sublist.map Prod.fst)

theorem HasDistinctKeys.put (h : table.HasDistinctKeys) (key : Text) (value : β) :
    (table.put key value).HasDistinctKeys := by
  have hkey : key ∉ (table.erase key).entries.map Prod.fst := by
    intro hmem
    obtain ⟨entry, hentry, rfl⟩ := List.mem_map.mp hmem
    simpa [Table.erase] using List.of_mem_filter hentry
  exact List.nodup_cons.mpr ⟨hkey, h.erase key⟩

theorem mem_keys_iff {key : Text} :
    key ∈ table.entries.map Prod.fst ↔ (table.find? key).isSome = true := by
  rw [find?, List.lookup_isSome_iff, List.mem_map]
  simp only [beq_iff_eq, eq_comm (a := key)]

/-- A table without doubled keys has as many entries as keys with a value. -/
theorem HasDistinctKeys.size_eq_ncard (h : table.HasDistinctKeys) :
    table.size = {key | (table.find? key).isSome = true}.ncard := by
  have hkeys : {key | (table.find? key).isSome = true}
      = ((table.entries.map Prod.fst).toFinset : Set Text) := by
    ext key
    rw [List.coe_toFinset, Set.mem_ofPred_eq, Set.mem_ofPred_eq, mem_keys_iff]
  rw [hkeys, Set.ncard_coe_finset, List.toFinset_card_of_nodup h, List.length_map, size]

theorem size_erase_le (table : Table β) (key : Text) : (table.erase key).size ≤ table.size :=
  List.length_filter_le _ _

theorem size_put_le (table : Table β) (key : Text) (value : β) :
    (table.put key value).size ≤ table.size + 1 :=
  Nat.succ_le_succ (table.size_erase_le key)

end Table

end TextTemplate

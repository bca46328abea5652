import ScriptCheck.Proofs.Json.Reading
import ScriptCheck.Proofs.Text.Order
import ScriptCheck.Table

/-! Objects as they are read: the entries are in the order of their keys, and under each key is what
was given for it. -/

namespace ScriptCheck.Json

open Text

variable {entries sorted : List (String × Json)} {k key : String} {v : Json}

theorem keys_insertEntry (key : String) (v : Json) (entries : List (String × Json)) :
    (insertEntry key v entries).map Prod.fst = insertText key (entries.map Prod.fst) := by
  induction entries with
  | nil => rfl
  | cons e rest ih =>
    obtain ⟨k, w⟩ := e
    unfold insertEntry
    rw [List.map_cons, insertText]
    split
    · rfl
    · split
      · rename_i heq
        rw [heq]
        rfl
      · rw [List.map_cons, ih]

theorem lookup_insertEntry (k key : String) (v : Json) (entries : List (String × Json)) :
    (insertEntry key v entries).lookup k = if k = key then some v else entries.lookup k := by
  induction entries with
  | nil => exact Table.lookup_cons_ite k key v []
  | cons e rest ih =>
    obtain ⟨a, w⟩ := e
    unfold insertEntry
    split
    · exact Table.lookup_cons_ite k key v _
    · split
      · rename_i heq
        rw [Table.lookup_cons_ite, Table.lookup_cons_ite, heq]
        by_cases hk : k = a <;> simp [hk]
      · rename_i hne
        rw [Table.lookup_cons_ite, Table.lookup_cons_ite, ih]
        by_cases hk : k = a
        · simp [hk, Ne.symm hne]
        · simp [hk]

theorem pairwise_foldl_insertEntry (hsorted : (sorted.map Prod.fst).Pairwise (· < ·))
    (entries : List (String × Json)) :
    ((entries.foldl (fun sorted (k, v) => insertEntry k v sorted) sorted).map Prod.fst).Pairwise
      (· < ·) := by
  induction entries generalizing sorted with
  | nil => exact hsorted
  | cons e rest ih =>
    refine ih ?_
    rw [keys_insertEntry]
    exact pairwise_insertText hsorted

theorem lookup_foldl_insertEntry (hdistinct : (entries.map Prod.fst).Nodup) (k : String)
    (sorted : List (String × Json)) :
    (entries.foldl (fun sorted (k, v) => insertEntry k v sorted) sorted).lookup k =
      (entries.lookup k).or (sorted.lookup k) := by
  induction entries generalizing sorted with
  | nil => rfl
  | cons e rest ih =>
    obtain ⟨a, v⟩ := e
    obtain ⟨ha, hrest⟩ := List.nodup_cons.mp hdistinct
    rw [List.foldl_cons, ih hrest, lookup_insertEntry, Table.lookup_cons_ite]
    by_cases hk : k = a
    · have hnone : rest.lookup a = none := by
        refine List.lookup_eq_none_iff.mpr fun e he => ?_
        simpa using fun heq : a = e.1 => ha (List.mem_map.mpr ⟨e, he, heq.symm⟩)
      simp [hk, hnone]
    · simp [hk]

theorem exists_object (hdistinct : (entries.map Prod.fst).Nodup) :
    ∃ sorted, object entries = .obj sorted ∧ (sorted.map Prod.fst).Pairwise (· < ·) ∧
      ∀ k, sorted.lookup k = entries.lookup k := by
  refine ⟨_, rfl, pairwise_foldl_insertEntry .nil entries, fun k => ?_⟩
  rw [lookup_foldl_insertEntry hdistinct]
  exact Option.or_none

theorem arrangedItems_eq_map (items : List Json) : arrangedItems items = items.map arranged := by
  induction items with
  | nil => rfl
  | cons v items ih => rw [arrangedItems, List.map_cons, ih]

theorem keys_arrangedEntries (entries : List (String × Json)) :
    (arrangedEntries entries).map Prod.fst = entries.map Prod.fst := by
  induction entries with
  | nil => rfl
  | cons e rest ih => rw [arrangedEntries, List.map_cons, List.map_cons, ih]

theorem lookup_arrangedEntries (entries : List (String × Json)) (k : String) :
    (arrangedEntries entries).lookup k = (entries.lookup k).map arranged := by
  induction entries with
  | nil => rfl
  | cons e rest ih =>
    obtain ⟨a, v⟩ := e
    rw [arrangedEntries, Table.lookup_cons_ite, Table.lookup_cons_ite, ih]
    split <;> rfl

theorem exists_arranged (entries : List (String × Json))
    (hdistinct : (entries.map Prod.fst).Nodup) :
    ∃ sorted, (obj entries).arranged = .obj sorted ∧ (sorted.map Prod.fst).Nodup ∧
      ∀ k, sorted.lookup k = (entries.lookup k).map arranged := by
  have hkeys : ((arrangedEntries entries).map Prod.fst).Nodup := by rwa [keys_arrangedEntries]
  obtain ⟨sorted, hobject, hsorted, hlookup⟩ := exists_object hkeys
  refine ⟨sorted, by rw [arranged, hobject], nodup_of_pairwise_lt hsorted, fun k => ?_⟩
  rw [hlookup, lookup_arrangedEntries]

end ScriptCheck.Json

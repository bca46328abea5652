/-! Finite maps as lists of entries. What is under a key is `get?`, and each operation is
known by what it does to that. -/

namespace ScriptCheck

structure Table (κ α : Type) where
  entries : List (κ × α)
deriving Repr

namespace Table

variable {κ α : Type} [DecidableEq κ]

def empty : Table κ α := ⟨[]⟩

instance : Inhabited (Table κ α) := ⟨empty⟩

def get? (t : Table κ α) (key : κ) : Option α := t.entries.lookup key

def erase (t : Table κ α) (key : κ) : Table κ α := ⟨t.entries.filter fun e => e.1 ≠ key⟩

def insert (t : Table κ α) (key : κ) (value : α) : Table κ α :=
  ⟨(key, value) :: (t.erase key).entries⟩

def modify (t : Table κ α) (key : κ) (f : α → α) : Table κ α :=
  match t.get? key with
  | some value => t.insert key (f value)
  | none => t

def union (base top : Table κ α) : Table κ α :=
  top.entries.foldr (fun (key, value) t => t.insert key value) base

theorem lookup_cons_ite (k a : κ) (x : α) (rest : List (κ × α)) :
    ((a, x) :: rest).lookup k = if k = a then some x else rest.lookup k := by
  by_cases h : k = a
  · simp [h]
  · simp [List.lookup_cons, h, beq_eq_false_iff_ne.mpr h]

theorem notMem_of_lookup {entries : List (κ × α)} {key : κ} (hnone : entries.lookup key = none) :
    key ∉ entries.map Prod.fst := by
  intro hmem
  obtain ⟨e, he, rfl⟩ := List.mem_map.mp hmem
  simpa using List.lookup_eq_none_iff.mp hnone e he

theorem mem_of_lookup {entries : List (κ × α)} {key : κ} {value : α}
    (hsome : entries.lookup key = some value) : (key, value) ∈ entries := by
  obtain ⟨front, back, rfl, -⟩ := List.lookup_eq_some_iff.mp hsome
  exact List.mem_append_right front List.mem_cons_self

theorem lookup_eq_some_iff {entries : List (κ × α)} (hdistinct : (entries.map Prod.fst).Nodup)
    {key : κ} {value : α} : entries.lookup key = some value ↔ (key, value) ∈ entries := by
  induction entries with
  | nil => exact iff_of_false nofun List.not_mem_nil
  | cons e rest ih =>
    obtain ⟨a, x⟩ := e
    obtain ⟨ha, hrest⟩ := List.nodup_cons.mp hdistinct
    rw [lookup_cons_ite, List.mem_cons, Prod.mk.injEq]
    by_cases hkey : key = a
    · subst hkey
      have habsent : (key, value) ∉ rest := fun hmem =>
        ha (List.mem_map.mpr ⟨(key, value), hmem, rfl⟩)
      simp [habsent, eq_comm]
    · simp [hkey, ih hrest]

theorem get?_erase (t : Table κ α) (key k : κ) :
    (t.erase key).get? k = if k = key then none else t.get? k := by
  obtain ⟨entries⟩ := t
  show (entries.filter fun e => e.1 ≠ key).lookup k = if k = key then none else entries.lookup k
  induction entries with
  | nil => simp
  | cons e rest ih =>
    obtain ⟨a, x⟩ := e
    by_cases ha : a = key
    · subst ha
      rw [List.filter_cons_of_neg (by simp), ih, lookup_cons_ite]
      by_cases hk : k = a <;> simp [hk]
    · rw [List.filter_cons_of_pos (by simpa using ha), lookup_cons_ite, ih, lookup_cons_ite]
      by_cases hk : k = a <;> simp [hk, ha]

theorem get?_insert (t : Table κ α) (key k : κ) (value : α) :
    (t.insert key value).get? k = if k = key then some value else t.get? k := by
  show ((key, value) :: (t.erase key).entries).lookup k = _
  rw [lookup_cons_ite]
  by_cases hk : k = key
  · simp [hk]
  · have h := get?_erase t key k
    simp only [hk, if_false] at h ⊢
    exact h

theorem get?_modify (t : Table κ α) (key k : κ) (f : α → α) :
    (t.modify key f).get? k = if k = key then (t.get? k).map f else t.get? k := by
  unfold modify
  by_cases hk : k = key
  · subst hk
    cases h : t.get? k <;> simp [h, get?_insert]
  · cases h : t.get? key <;> simp [hk, get?_insert]

theorem get?_union (base top : Table κ α) (k : κ) :
    (base.union top).get? k = (top.get? k).or (base.get? k) := by
  obtain ⟨entries⟩ := top
  show (entries.foldr _ base).get? k = (entries.lookup k).or (base.get? k)
  induction entries with
  | nil => rfl
  | cons e rest ih =>
    obtain ⟨a, x⟩ := e
    rw [List.foldr_cons, get?_insert, ih, lookup_cons_ite]
    by_cases hk : k = a <;> simp [hk]
end Table
end ScriptCheck

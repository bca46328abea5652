import Mathlib.Data.List.Basic
import ScriptCheck.Json.Decode
import ScriptCheck.Table

/-! Records read out of objects. Where every entry is read into the field of its key, each field
has what stands under its key, in whatever order the entries come and whatever else is there, and
an entry that does not fit spoils the record. -/

namespace ScriptCheck.Json

variable {α ι : Type} {F : ι → Type} {decode : Json → Decoded α}
  {step : α → String → Json → Decoded α} {key : ι → String} {get : (i : ι) → α → F i}
  {set : (i : ι) → F i → α → α} {read : (i : ι) → Json → Decoded (F i)} {draft a b : α}
  {e : DecodeError} {entries : List (String × Json)} {i : ι} {v : Json}

theorem expectNat_nat {n : Nat} (hn : n < limit64) (wanted : String) :
    expectNat wanted (.nat n) = .ok n := by
  have hrange : 0 ≤ (n : Int) ∧ (n : Int) < limit64 := ⟨Int.natCast_nonneg n, Int.ofNat_lt.mpr hn⟩
  rw [nat, expectNat, if_pos hrange, Int.toNat_natCast]
  rfl

theorem lt_of_expectNat {n : Nat} {wanted : String} (hv : expectNat wanted v = .ok n) :
    n < limit64 := by
  cases v with
  | int value =>
    rw [expectNat] at hv
    split at hv
    · rename_i hrange
      cases hv
      exact (Int.toNat_lt hrange.1).mpr hrange.2
    · cases hv
  | _ => cases hv

theorem optional_of_ne_null {β : Type} (decode : Json → Decoded β) (hv : v ≠ .null) :
    optional decode v = some <$> decode v := by
  cases v <;> first | rfl | exact absurd rfl hv

theorem eq_ok_of_optional {β : Type} {decode : Json → Decoded β} {x : β}
    (hv : optional decode v = .ok (some x)) : decode v = .ok x := by
  by_cases hnull : v = .null
  · rw [hnull] at hv
    cases hv
  · rw [optional_of_ne_null decode hnull] at hv
    cases hdecode : decode v with
    | error e =>
      rw [hdecode] at hv
      cases hv
    | ok y =>
      rw [hdecode] at hv
      cases hv
      rfl

theorem eq_some_of_map_ok {β : Type} {m : Decoded β} {given : Option β} {x : β}
    (h : some <$> m = .ok given) (hm : m = .ok x) : given = some x := by
  rw [hm] at h
  exact (Except.ok.inj h).symm

theorem eq_some_of_require {β : Type} {name field : String} {fields : List String}
    {given : Option β} {x : β} (h : require name fields v field given = .ok x) :
    given = some x := by
  cases given with
  | some y =>
    cases h
    rfl
  | none => cases v <;> cases h

structure ReadsFields (step : α → String → Json → Decoded α) (key : ι → String)
    (get : (i : ι) → α → F i) (set : (i : ι) → F i → α → α)
    (read : (i : ι) → Json → Decoded (F i)) : Prop where
  known : ∀ a i v, step a (key i) v = read i v >>= fun x => pure (set i x a)
  unknown : ∀ a k v, (∀ i, k ≠ key i) → step a k v = .ok a
  get_set : ∀ a i x, get i (set i x a) = x
  get_set_of_ne : ∀ a i x j, j ≠ i → get j (set i x a) = get j a

theorem ok_of_bind {β γ : Type} {m : Decoded β} {f : β → Decoded γ} {c : γ}
    (h : m >>= f = .ok c) : ∃ b, m = .ok b ∧ f b = .ok c := by
  cases m with
  | error e => cases h
  | ok b => exact ⟨b, rfl, h⟩

theorem ok_of_foldlM_cons {entry : String × Json}
    (hrun : (entry :: entries).foldlM (fun a e => step a e.1 e.2) a = .ok b) :
    ∃ c, step a entry.1 entry.2 = .ok c ∧ entries.foldlM (fun a e => step a e.1 e.2) c = .ok b := by
  rw [List.foldlM_cons] at hrun
  exact ok_of_bind hrun

namespace ReadsFields

theorem exists_of_step (hreads : ReadsFields step key get set read)
    (hstep : step a (key i) v = .ok b) : ∃ x, read i v = .ok x ∧ b = set i x a := by
  rw [hreads.known] at hstep
  cases hread : read i v with
  | error e =>
    rw [hread] at hstep
    cases hstep
  | ok x =>
    rw [hread] at hstep
    exact ⟨x, rfl, (Except.ok.inj hstep).symm⟩

theorem read_own (hreads : ReadsFields step key get set read) (hstep : step a (key i) v = .ok b) :
    read i v = .ok (get i b) := by
  obtain ⟨x, hread, rfl⟩ := hreads.exists_of_step hstep
  rw [hreads.get_set, hread]

theorem get_other (hreads : ReadsFields step key get set read) {k : String}
    (hstep : step a k v = .ok b) (hkey : k ≠ key i) : get i b = get i a := by
  by_cases hknown : ∃ j, k = key j
  · obtain ⟨j, rfl⟩ := hknown
    obtain ⟨x, -, rfl⟩ := hreads.exists_of_step hstep
    exact hreads.get_set_of_ne a j x i fun hij => hkey (hij ▸ rfl)
  · rw [hreads.unknown a k v (not_exists.mp hknown)] at hstep
    cases hstep
    rfl

theorem exists_of_step_error (hreads : ReadsFields step key get set read) {k : String}
    (hstep : step a k v = .error e) : ∃ i, k = key i ∧ read i v = .error e := by
  by_cases hknown : ∃ j, k = key j
  · obtain ⟨j, rfl⟩ := hknown
    rw [hreads.known] at hstep
    cases hread : read j v with
    | error e' =>
      rw [hread] at hstep
      cases hstep
      exact ⟨j, rfl, hread⟩
    | ok x =>
      rw [hread] at hstep
      cases hstep
  · rw [hreads.unknown a k v (not_exists.mp hknown)] at hstep
    cases hstep

theorem get_of_notMem (hreads : ReadsFields step key get set read)
    (hrun : entries.foldlM (fun a e => step a e.1 e.2) a = .ok b)
    (hkey : key i ∉ entries.map Prod.fst) : get i b = get i a := by
  induction entries generalizing a with
  | nil =>
    cases hrun
    rfl
  | cons entry entries ih =>
    obtain ⟨c, hstep, hrest⟩ := ok_of_foldlM_cons hrun
    rw [List.map_cons, List.mem_cons, not_or] at hkey
    rw [ih hrest hkey.2]
    exact hreads.get_other hstep (Ne.symm hkey.1)

theorem read_of_mem (hreads : ReadsFields step key get set read)
    (hrun : entries.foldlM (fun a e => step a e.1 e.2) a = .ok b)
    (hdistinct : (entries.map Prod.fst).Nodup) (hmem : (key i, v) ∈ entries) :
    read i v = .ok (get i b) := by
  induction entries generalizing a with
  | nil => cases hmem
  | cons entry entries ih =>
    obtain ⟨c, hstep, hrest⟩ := ok_of_foldlM_cons hrun
    obtain ⟨hentry, hentries⟩ := List.nodup_cons.mp hdistinct
    rcases List.mem_cons.mp hmem with rfl | hmem
    · rw [hreads.get_of_notMem hrest hentry]
      exact hreads.read_own hstep
    · exact ih hrest hentries hmem

theorem exists_read (hreads : ReadsFields step key get set read)
    (hrun : entries.foldlM (fun a e => step a e.1 e.2) a = .ok b) (hmem : (key i, v) ∈ entries) :
    ∃ x, read i v = .ok x := by
  induction entries generalizing a with
  | nil => cases hmem
  | cons entry entries ih =>
    obtain ⟨c, hstep, hrest⟩ := ok_of_foldlM_cons hrun
    rcases List.mem_cons.mp hmem with rfl | hmem
    · exact ⟨_, hreads.read_own hstep⟩
    · exact ih hrest hmem

theorem exists_of_error (hreads : ReadsFields step key get set read)
    (hrun : entries.foldlM (fun a e => step a e.1 e.2) a = .error e) :
    ∃ i v, (key i, v) ∈ entries ∧ read i v = .error e := by
  induction entries generalizing a with
  | nil => cases hrun
  | cons entry entries ih =>
    obtain ⟨k, v⟩ := entry
    rw [List.foldlM_cons] at hrun
    cases hstep : step a k v with
    | error e' =>
      rw [hstep] at hrun
      cases hrun
      obtain ⟨i, rfl, hread⟩ := hreads.exists_of_step_error hstep
      exact ⟨i, v, List.mem_cons_self, hread⟩
    | ok c =>
      rw [hstep] at hrun
      obtain ⟨i, w, hmem, hread⟩ := ih hrun
      exact ⟨i, w, List.mem_cons_of_mem _ hmem, hread⟩

end ReadsFields

/-- A decoder that reads an object entry by entry, and makes nothing of what is neither an object
nor a list. -/
structure DecodesRecord (decode : Json → Decoded α) (draft : α) (key : ι → String)
    (get : (i : ι) → α → F i) (set : (i : ι) → F i → α → α)
    (read : (i : ι) → Json → Decoded (F i)) : Prop where
  entries : ∃ step, ReadsFields step key get set read ∧ ∀ entries,
    decode (.obj entries) = entries.foldlM (fun a e => step a e.1 e.2) draft
  scalar : ∀ v, (∀ items, v ≠ .arr items) → (∀ entries, v ≠ .obj entries) → ∃ e, decode v = .error e

theorem decodesRecord_foldRecord (hreads : ReadsFields step key get set read) (rules : Rules)
    (name : String) (fields : List String) (draft : α) :
    DecodesRecord (foldRecord rules name fields step draft) draft key get set read where
  entries := ⟨step, hreads, fun _ => rfl⟩
  scalar := by
    intro v hlist hobject
    cases v with
    | arr items => exact absurd rfl (hlist items)
    | obj entries => exact absurd rfl (hobject entries)
    | _ => exact ⟨_, rfl⟩

namespace DecodesRecord

theorem get_of_lookup_none (hdecode : DecodesRecord decode draft key get set read)
    (hrun : decode (.obj entries) = .ok b) (hnone : entries.lookup (key i) = none) :
    get i b = get i draft := by
  obtain ⟨step, hreads, hfold⟩ := hdecode.entries
  rw [hfold] at hrun
  exact hreads.get_of_notMem hrun (Table.notMem_of_lookup hnone)

theorem read_of_lookup (hdecode : DecodesRecord decode draft key get set read)
    (hrun : decode (.obj entries) = .ok b) (hdistinct : (entries.map Prod.fst).Nodup)
    (hsome : entries.lookup (key i) = some v) : read i v = .ok (get i b) := by
  obtain ⟨step, hreads, hfold⟩ := hdecode.entries
  rw [hfold] at hrun
  exact hreads.read_of_mem hrun hdistinct (Table.mem_of_lookup hsome)

theorem exists_of_error (hdecode : DecodesRecord decode draft key get set read)
    (hrun : decode (.obj entries) = .error e) (hdistinct : (entries.map Prod.fst).Nodup) :
    ∃ i v, entries.lookup (key i) = some v ∧ read i v = .error e := by
  obtain ⟨step, hreads, hfold⟩ := hdecode.entries
  rw [hfold] at hrun
  obtain ⟨i, v, hmem, hread⟩ := hreads.exists_of_error hrun
  exact ⟨i, v, (Table.lookup_eq_some_iff hdistinct).mpr hmem, hread⟩

theorem exists_of_lookup (hdecode : DecodesRecord decode draft key get set read)
    (hdistinct : (entries.map Prod.fst).Nodup)
    (hread : ∀ i v, entries.lookup (key i) = some v → ∃ x, read i v = .ok x) :
    ∃ b, decode (.obj entries) = .ok b ∧ ∀ i,
      (entries.lookup (key i) = none → get i b = get i draft) ∧
      ∀ v, entries.lookup (key i) = some v → read i v = .ok (get i b) := by
  cases hrun : decode (.obj entries) with
  | error e =>
    obtain ⟨i, v, hlookup, herror⟩ := hdecode.exists_of_error hrun hdistinct
    obtain ⟨x, hx⟩ := hread i v hlookup
    cases hx.symm.trans herror
  | ok b =>
    exact ⟨b, rfl, fun i => ⟨hdecode.get_of_lookup_none hrun,
      fun v => hdecode.read_of_lookup hrun hdistinct⟩⟩

theorem exists_error (hdecode : DecodesRecord decode draft key get set read)
    (hsome : entries.lookup (key i) = some v) (hread : ∃ e, read i v = .error e) :
    ∃ e, decode (.obj entries) = .error e := by
  obtain ⟨step, hreads, hfold⟩ := hdecode.entries
  cases hrun : decode (.obj entries) with
  | error e => exact ⟨e, rfl⟩
  | ok b =>
    rw [hfold] at hrun
    obtain ⟨x, hx⟩ := hreads.exists_read hrun (Table.mem_of_lookup hsome)
    obtain ⟨e, he⟩ := hread
    cases hx.symm.trans he

end DecodesRecord

theorem foldRecord_keeps {P : α → Prop} {rules : Rules} {name : String} {fields : List String}
    (hstep : ∀ a k v b, step a k v = .ok b → P a → P b) (hdraft : P draft)
    (hrun : foldRecord rules name fields step draft v = .ok b) : P b := by
  have hfold (entries : List (String × Json)) (a b : α) (ha : P a)
      (hrun : entries.foldlM (fun a e => step a e.1 e.2) a = .ok b) : P b := by
    induction entries generalizing a with
    | nil =>
      cases hrun
      exact ha
    | cons e entries ih =>
      obtain ⟨c, hc, hrest⟩ := ok_of_foldlM_cons hrun
      exact ih c (hstep a e.1 e.2 c hc ha) hrest
  cases v with
  | obj entries => exact hfold entries draft b hdraft hrun
  | arr items =>
    obtain ⟨c, hc, hrest⟩ := ok_of_bind hrun
    dsimp only at hrest
    split at hrest
    · cases hrest
    · cases hrest
      exact hfold _ draft _ hdraft hc
  | _ => cases hrun

end ScriptCheck.Json

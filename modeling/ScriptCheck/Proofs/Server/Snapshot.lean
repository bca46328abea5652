import ScriptCheck.Server.Documents

/-! What becomes of a document after a snapshot of it was taken. Only its version and the
number of its opening are compared with the snapshot, never the text. This is enough as long as
versions grow and a save tells no other text than the one that is there. -/

namespace ScriptCheck.Server.DocumentStore

def Event.uri : Event → Uri
  | opened uri .. => uri
  | changed uri .. => uri
  | saved uri _ => uri
  | closed uri => uri

def Event.touches (uri : Uri) : Event → Bool
  | opened u .. => u = uri
  | changed u .. => u = uri
  | closed u => u = uri
  | saved .. => false

variable {s : DocumentStore} {uri : Uri} {snapshot : Document} {event : Event}
  {events : List Event} {touched : Bool}

theorem Event.touches_of_ne (hu : event.uri ≠ uri) : event.touches uri = false := by
  cases event with
  | saved u text => rfl
  | _ => exact decide_eq_false hu

/-- What may be told of the documents as they are. -/
def Allows (s : DocumentStore) : Event → Prop
  | .changed uri _ version => ∀ d, s.get? uri = some d → d.version < version
  | .saved uri (some text) => ∀ d, s.get? uri = some d → d.text = text
  | _ => True

def Orderly : DocumentStore → List Event → Prop
  | _, [] => True
  | s, event :: events => s.Allows event ∧ (s.apply event).Orderly events

def Numbered (s : DocumentStore) : Prop :=
  ∀ uri d, s.get? uri = some d → d.generation ≤ s.opened

theorem numbered_empty : empty.Numbered := by
  intro uri d hd
  cases hd

theorem Numbered.apply (hs : s.Numbered) (event : Event) : (s.apply event).Numbered := by
  intro u d hd
  cases event with
  | opened uri text version language =>
    rw [DocumentStore.apply, get?_open] at hd
    show d.generation ≤ s.opened + 1
    split at hd
    · cases hd
      exact Nat.le_refl _
    · exact Nat.le_succ_of_le (hs u d hd)
  | changed uri text version =>
    rw [DocumentStore.apply, get?_change] at hd
    split at hd
    · obtain ⟨e, he, rfl⟩ := Option.map_eq_some_iff.mp hd
      exact hs u e he
    · exact hs u d hd
  | saved uri text =>
    rw [DocumentStore.apply, get?_save] at hd
    split at hd
    · obtain ⟨e, he, rfl⟩ := Option.map_eq_some_iff.mp hd
      exact hs u e he
    · exact hs u d hd
  | closed uri =>
    rw [DocumentStore.apply, get?_close] at hd
    split at hd
    · cases hd
    · exact hs u d hd

theorem Numbered.foldl (hs : s.Numbered) (events : List Event) :
    (events.foldl DocumentStore.apply s).Numbered := by
  induction events generalizing s with
  | nil => exact hs
  | cons event events ih => exact ih (hs.apply event)

theorem opened_le_apply (s : DocumentStore) (event : Event) :
    s.opened ≤ (s.apply event).opened := by
  cases event with
  | opened u text version language => exact Nat.le_succ _
  | _ => exact Nat.le_refl _

theorem get?_apply_of_ne (s : DocumentStore) (hu : event.uri ≠ uri) :
    (s.apply event).get? uri = s.get? uri := by
  have hne : uri ≠ event.uri := Ne.symm hu
  cases event with
  | opened u text version language =>
    rw [DocumentStore.apply, get?_open]
    exact if_neg hne
  | changed u text version =>
    rw [DocumentStore.apply, get?_change]
    exact if_neg hne
  | saved u text =>
    rw [DocumentStore.apply, get?_save]
    exact if_neg hne
  | closed u =>
    rw [DocumentStore.apply, get?_close]
    exact if_neg hne

/-- How what is open under a name compares with a snapshot, by whether it was touched since. -/
structure Since (uri : Uri) (snapshot : Document) (touched : Bool) (s : DocumentStore) : Prop where
  issued : snapshot.generation ≤ s.opened
  kept : touched = false → ∃ d, s.get? uri = some d ∧ d.text = snapshot.text ∧
    d.version = snapshot.version ∧ d.generation = snapshot.generation
  moved : touched = true → ∀ d, s.get? uri = some d →
    d.generation = snapshot.generation → snapshot.version < d.version

theorem since_get? (hs : s.Numbered) (hd : s.get? uri = some snapshot) :
    Since uri snapshot false s where
  issued := hs uri snapshot hd
  kept := fun _ => ⟨snapshot, hd, rfl, rfl, rfl⟩
  moved := fun h => by cases h

namespace Since

theorem of_get?_eq {t : DocumentStore} (h : Since uri snapshot touched s)
    (hopened : s.opened ≤ t.opened) (hget : t.get? uri = s.get? uri) :
    Since uri snapshot touched t where
  issued := Nat.le_trans h.issued hopened
  kept := by rw [hget]; exact h.kept
  moved := by rw [hget]; exact h.moved

theorem «open» (h : Since uri snapshot touched s) (text : String) (version : Int)
    (language : String) : Since uri snapshot true (s.open uri text version language) where
  issued := Nat.le_succ_of_le h.issued
  kept := fun h => by cases h
  moved := by
    intro _ d hd hgeneration
    rw [get?_open, if_pos rfl] at hd
    cases hd
    have hle : s.opened + 1 ≤ s.opened := Nat.le_trans (Nat.le_of_eq hgeneration) h.issued
    exact absurd hle (Nat.not_succ_le_self _)

theorem change (h : Since uri snapshot touched s) (text : String) {version : Int}
    (hversion : ∀ d, s.get? uri = some d → d.version < version) :
    Since uri snapshot true (s.change uri text version) where
  issued := h.issued
  kept := fun h => by cases h
  moved := by
    intro _ d hd hgeneration
    rw [get?_change, if_pos rfl] at hd
    obtain ⟨e, he, rfl⟩ := Option.map_eq_some_iff.mp hd
    have hgrows : e.version < version := hversion e he
    show snapshot.version < version
    cases touched with
    | true => exact Int.lt_trans (h.moved rfl e he hgeneration) hgrows
    | false =>
      obtain ⟨k, hk, -, hkversion, -⟩ := h.kept rfl
      rw [hk] at he
      cases he
      rw [← hkversion]
      exact hgrows

theorem save (h : Since uri snapshot touched s) {text : Option String}
    (htext : ∀ d, s.get? uri = some d → text.getD d.text = d.text) :
    Since uri snapshot touched (s.save uri text) where
  issued := h.issued
  kept := by
    intro hf
    obtain ⟨k, hk, hktext, hkversion, hkgeneration⟩ := h.kept hf
    refine ⟨{ k with text := text.getD k.text, dirty := false }, ?_, ?_, hkversion, hkgeneration⟩
    · rw [get?_save, if_pos rfl, hk]
      rfl
    · show text.getD k.text = snapshot.text
      rw [htext k hk, hktext]
  moved := by
    intro ht d hd hgeneration
    rw [get?_save, if_pos rfl] at hd
    obtain ⟨e, he, rfl⟩ := Option.map_eq_some_iff.mp hd
    exact h.moved ht e he hgeneration

theorem close (h : Since uri snapshot touched s) : Since uri snapshot true (s.close uri) where
  issued := h.issued
  kept := fun h => by cases h
  moved := by
    intro _ d hd
    rw [get?_close, if_pos rfl] at hd
    cases hd

theorem apply (h : Since uri snapshot touched s) (hallows : s.Allows event) :
    Since uri snapshot (touched || event.touches uri) (s.apply event) := by
  by_cases hu : event.uri = uri
  · cases event with
    | opened u text version language =>
      obtain rfl : u = uri := hu
      have htouches : (Event.opened u text version language).touches u = true := decide_eq_true rfl
      rw [htouches, Bool.or_true]
      exact h.open text version language
    | changed u text version =>
      obtain rfl : u = uri := hu
      have htouches : (Event.changed u text version).touches u = true := decide_eq_true rfl
      rw [htouches, Bool.or_true]
      exact h.change text hallows
    | saved u text =>
      obtain rfl : u = uri := hu
      have htext : ∀ d, s.get? u = some d → text.getD d.text = d.text := by
        intro d hd
        cases text with
        | none => rfl
        | some text => exact (hallows d hd).symm
      rw [Event.touches, Bool.or_false]
      exact h.save htext
    | closed u =>
      obtain rfl : u = uri := hu
      have htouches : (Event.closed u).touches u = true := decide_eq_true rfl
      rw [htouches, Bool.or_true]
      exact h.close
  · rw [Event.touches_of_ne hu, Bool.or_false]
    exact h.of_get?_eq (opened_le_apply s event) (get?_apply_of_ne s hu)

theorem foldl (h : Since uri snapshot touched s) (horderly : s.Orderly events) :
    Since uri snapshot (touched || events.any (·.touches uri))
      (events.foldl DocumentStore.apply s) := by
  induction events generalizing s touched with
  | nil => simpa using h
  | cons event events ih =>
    obtain ⟨hallows, hrest⟩ := horderly
    have hnext := ih (h.apply hallows) hrest
    rw [Bool.or_assoc] at hnext
    exact hnext

theorem isCurrent_eq (h : Since uri snapshot touched s) : s.isCurrent uri snapshot = !touched := by
  unfold isCurrent
  cases touched with
  | false =>
    obtain ⟨d, hd, -, hversion, hgeneration⟩ := h.kept rfl
    simp [hd, hversion, hgeneration]
  | true =>
    cases hd : s.get? uri with
    | none => rfl
    | some d =>
      have hmoved := h.moved rfl d hd
      by_cases hgeneration : d.generation = snapshot.generation
      · have hversion := hmoved hgeneration
        simp [Int.ne_of_gt hversion]
      · simp [hgeneration]

end Since
end ScriptCheck.Server.DocumentStore

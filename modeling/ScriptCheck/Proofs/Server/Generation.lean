import ScriptCheck.Limits
import ScriptCheck.Proofs.Server.Run
import ScriptCheck.Proofs.Server.Snapshot

/-! Which snapshots are current after any events, whatever versions they carry. The number of an
opening is not given twice, so a snapshot is out for good once its document was closed or opened
anew. Until then the version of the last change decides. -/

namespace ScriptCheck.Server.DocumentStore

variable {s : DocumentStore} {uri : Uri} {snapshot d : Document} {event : Event}
  {past events : List Event} {replaced : Bool} {version : Int}

def Event.isOpening : Event → Bool
  | opened .. => true
  | _ => false

def Event.replaces (uri : Uri) : Event → Bool
  | opened u .. => u = uri
  | closed u => u = uri
  | _ => false

def Event.newVersion? (uri : Uri) : Event → Option Int
  | changed u _ version => if u = uri then some version else none
  | _ => none

def lastVersion? (uri : Uri) (events : List Event) : Option Int :=
  (events.filterMap (·.newVersion? uri)).getLast?

def told (events : List Event) : DocumentStore := events.foldl DocumentStore.apply empty

theorem Event.replaces_of_ne (hu : event.uri ≠ uri) : event.replaces uri = false := by
  cases event with
  | opened u text version language => exact decide_eq_false hu
  | closed u => exact decide_eq_false hu
  | _ => rfl

theorem Event.newVersion?_of_ne (hu : event.uri ≠ uri) : event.newVersion? uri = none := by
  cases event with
  | changed u text version => exact if_neg hu
  | _ => rfl

theorem lastVersion?_cons (event : Event) (events : List Event) (version : Int) :
    (lastVersion? uri (event :: events)).getD version =
      (lastVersion? uri events).getD ((event.newVersion? uri).getD version) := by
  unfold lastVersion?
  rw [List.filterMap_cons]
  cases event.newVersion? uri with
  | none => rfl
  | some v =>
    rw [List.getLast?_cons]
    rfl

structure Traced (uri : Uri) (snapshot : Document) (replaced : Bool) (version : Int)
    (s : DocumentStore) : Prop where
  issued : snapshot.generation ≤ s.opened
  kept : replaced = false → ∃ d, s.get? uri = some d ∧ d.version = version ∧
    d.generation = snapshot.generation
  renewed : replaced = true → ∀ d, s.get? uri = some d → snapshot.generation < d.generation

theorem traced_get? (hs : s.Numbered) (hd : s.get? uri = some snapshot) :
    Traced uri snapshot false snapshot.version s where
  issued := hs uri snapshot hd
  kept := fun _ => ⟨snapshot, hd, rfl, rfl⟩
  renewed := fun h => by cases h

namespace Traced

theorem of_get?_eq {t : DocumentStore} (h : Traced uri snapshot replaced version s)
    (hopened : s.opened ≤ t.opened) (hget : t.get? uri = s.get? uri) :
    Traced uri snapshot replaced version t where
  issued := Nat.le_trans h.issued hopened
  kept := by rw [hget]; exact h.kept
  renewed := by rw [hget]; exact h.renewed

theorem «open» (h : Traced uri snapshot replaced version s) (text : String) (new : Int)
    (language : String) : Traced uri snapshot true version (s.open uri text new language) where
  issued := Nat.le_succ_of_le h.issued
  kept := fun h => by cases h
  renewed := by
    intro _ d hd
    rw [get?_open, if_pos rfl] at hd
    cases hd
    exact Nat.lt_succ_of_le h.issued

theorem change (h : Traced uri snapshot replaced version s) (text : String) (new : Int) :
    Traced uri snapshot replaced new (s.change uri text new) where
  issued := h.issued
  kept := by
    intro hf
    obtain ⟨d, hd, -, hgeneration⟩ := h.kept hf
    refine ⟨{ d with text, version := new, dirty := true }, ?_, rfl, hgeneration⟩
    rw [get?_change, if_pos rfl, hd]
    rfl
  renewed := by
    intro ht d hd
    rw [get?_change, if_pos rfl] at hd
    obtain ⟨e, he, rfl⟩ := Option.map_eq_some_iff.mp hd
    exact h.renewed ht e he

theorem save (h : Traced uri snapshot replaced version s) (text : Option String) :
    Traced uri snapshot replaced version (s.save uri text) where
  issued := h.issued
  kept := by
    intro hf
    obtain ⟨d, hd, hversion, hgeneration⟩ := h.kept hf
    refine ⟨{ d with text := text.getD d.text, dirty := false }, ?_, hversion, hgeneration⟩
    rw [get?_save, if_pos rfl, hd]
    rfl
  renewed := by
    intro ht d hd
    rw [get?_save, if_pos rfl] at hd
    obtain ⟨e, he, rfl⟩ := Option.map_eq_some_iff.mp hd
    exact h.renewed ht e he

theorem close (h : Traced uri snapshot replaced version s) :
    Traced uri snapshot true version (s.close uri) where
  issued := h.issued
  kept := fun h => by cases h
  renewed := by
    intro _ d hd
    rw [get?_close, if_pos rfl] at hd
    cases hd

theorem apply (h : Traced uri snapshot replaced version s) (event : Event) :
    Traced uri snapshot (replaced || event.replaces uri) ((event.newVersion? uri).getD version)
      (s.apply event) := by
  by_cases hu : event.uri = uri
  · subst hu
    cases event with
    | opened u text new language =>
      have hreplaces : (Event.opened u text new language).replaces u = true := decide_eq_true rfl
      rw [Event.uri, hreplaces, Bool.or_true]
      exact h.open text new language
    | changed u text new =>
      have hreplaces : (Event.changed u text new).replaces u = false := rfl
      have hnew : (Event.changed u text new).newVersion? u = some new := if_pos rfl
      rw [Event.uri, hreplaces, hnew, Bool.or_false]
      exact h.change text new
    | saved u text =>
      have hreplaces : (Event.saved u text).replaces u = false := rfl
      rw [Event.uri, hreplaces, Bool.or_false]
      exact h.save text
    | closed u =>
      have hreplaces : (Event.closed u).replaces u = true := decide_eq_true rfl
      rw [Event.uri, hreplaces, Bool.or_true]
      exact h.close
  · rw [Event.replaces_of_ne hu, Event.newVersion?_of_ne hu, Bool.or_false]
    exact h.of_get?_eq (opened_le_apply s event) (get?_apply_of_ne s hu)

theorem foldl (h : Traced uri snapshot replaced version s) (events : List Event) :
    Traced uri snapshot (replaced || events.any (·.replaces uri))
      ((lastVersion? uri events).getD version) (events.foldl DocumentStore.apply s) := by
  induction events generalizing s replaced version with
  | nil => simpa [lastVersion?] using h
  | cons event events ih =>
    have hnext := ih (h.apply event)
    rw [Bool.or_assoc, ← lastVersion?_cons] at hnext
    exact hnext

theorem isCurrent_iff (h : Traced uri snapshot replaced version s) :
    s.isCurrent uri snapshot ↔ replaced = false ∧ version = snapshot.version := by
  unfold isCurrent
  cases replaced with
  | false =>
    obtain ⟨d, hd, hversion, hgeneration⟩ := h.kept rfl
    simp [hd, hversion, hgeneration]
  | true =>
    cases hd : s.get? uri with
    | none => simp
    | some d =>
      have hgeneration := Nat.ne_of_gt (h.renewed rfl d hd)
      simp [hgeneration]

end Traced

def openings : DocumentStore → List Event → List Document
  | _, [] => []
  | s, event :: events =>
    (if event.isOpening then ((s.apply event).get? event.uri).toList else []) ++
      openings (s.apply event) events

theorem generation_openings (s : DocumentStore) (events : List Event) :
    (s.openings events).map Document.generation =
      List.range' (s.opened + 1) (events.countP Event.isOpening) := by
  induction events generalizing s with
  | nil => rfl
  | cons event events ih =>
    unfold openings
    rw [List.map_append, ih, List.countP_cons]
    cases event with
    | opened uri text version language =>
      have hopen : (s.apply (.opened uri text version language)).get? uri =
          some ⟨text, version, language, false, s.opened + 1⟩ := by
        rw [DocumentStore.apply, get?_open, if_pos rfl]
      simp only [Event.isOpening, Event.uri, hopen, if_true, Option.toList_some, List.map_cons,
        List.map_nil, List.range'_succ]
      rfl
    | _ => rfl

theorem numbered_told (events : List Event) : (told events).Numbered := numbered_empty.foldl events

theorem told_append (past events : List Event) :
    told (past ++ events) = events.foldl DocumentStore.apply (told past) := List.foldl_append

theorem isCurrent_told_append (hsnapshot : (told past).get? uri = some snapshot) :
    (told (past ++ events)).isCurrent uri snapshot ↔ (∀ event ∈ events, ¬ event.replaces uri) ∧
      ∀ version, lastVersion? uri events = some version → version = snapshot.version := by
  have htraced := (traced_get? (numbered_told past) hsnapshot).foldl events
  rw [← told_append, Bool.false_or] at htraced
  rw [htraced.isCurrent_iff, List.any_eq_false]
  cases lastVersion? uri events <;> simp

theorem filterMap_filter_uri {α : Type} {read : Event → Option α}
    (hread : ∀ event, event.uri ≠ uri → read event = none) (events : List Event) :
    (events.filter (·.uri = uri)).filterMap read = events.filterMap read := by
  rw [List.filterMap_filter]
  congr 1
  funext event
  by_cases hu : event.uri = uri
  · simp [hu]
  · simp [hu, hread event hu]

theorem lastVersion?_filter (uri : Uri) (events : List Event) :
    lastVersion? uri (events.filter (·.uri = uri)) = lastVersion? uri events := by
  unfold lastVersion?
  rw [filterMap_filter_uri fun _ hu => Event.newVersion?_of_ne hu]

theorem replaces_filter (uri : Uri) (events : List Event) :
    (∀ event ∈ events.filter (·.uri = uri), ¬ event.replaces uri) ↔
      ∀ event ∈ events, ¬ event.replaces uri := by
  constructor
  · intro hnone event hmem
    by_cases hu : event.uri = uri
    · exact hnone event (List.mem_filter.mpr ⟨hmem, decide_eq_true hu⟩)
    · simp [Event.replaces_of_ne hu]
  · intro hnone event hmem
    exact hnone event (List.mem_filter.mp hmem).1

/-- A snapshot with what was told since, of all documents. -/
structure Lasts (uri : Uri) (snapshot : Document) (past events : List Event) : Prop where
  isCurrent : (told (past ++ events)).isCurrent uri snapshot ↔
    (∀ event ∈ events, ¬ event.replaces uri) ∧
      ∀ version, lastVersion? uri events = some version → version = snapshot.version
  replaced : ∀ before event after, events = before ++ event :: after → event.replaces uri →
    (told (past ++ events)).isCurrent uri snapshot = false
  others : (told (past ++ events)).isCurrent uri snapshot =
    (told (past ++ events.filter (·.uri = uri))).isCurrent uri snapshot
  generations : ((openings empty (past ++ events)).map Document.generation).Nodup
  numbers : ∀ d ∈ openings empty (past ++ events), d.generation < limit64

theorem lasts_of_get? (hopenings : (past ++ events).countP Event.isOpening < limit64)
    (hsnapshot : (told past).get? uri = some snapshot) : Lasts uri snapshot past events where
  isCurrent := isCurrent_told_append hsnapshot
  replaced := by
    rintro before event after rfl hreplaces
    refine Bool.eq_false_iff.mpr fun hcurrent => ?_
    have hnone := ((isCurrent_told_append hsnapshot).mp hcurrent).1
    exact hnone event (List.mem_append_right _ List.mem_cons_self) hreplaces
  others := by
    rw [Bool.eq_iff_iff, isCurrent_told_append hsnapshot, isCurrent_told_append hsnapshot,
      lastVersion?_filter, replaces_filter]
  generations := by
    rw [generation_openings]
    exact List.nodup_range'
  numbers := by
    intro d hd
    have hmem := List.mem_map_of_mem (f := Document.generation) hd
    rw [generation_openings, List.mem_range'_1] at hmem
    have hle : d.generation < 1 + (past ++ events).countP Event.isOpening := hmem.2
    omega

theorem lasts_of_get?_again :
    let past : List Event := [.opened draft "a" 1 "fish", .changed draft "b" 2]
    let changes : List Event :=
      [.changed draft "c" 3, .saved draft (some "d"), .changed draft "e" 2]
    let reopened : List Event := changes ++ [.closed draft, .opened draft "b" 2 "fish"]
    let snapshot : Document := ⟨"b", 2, "fish", true, 1⟩
    (told past).get? draft = some snapshot ∧ Lasts draft snapshot past changes ∧
      (told (past ++ changes)).isCurrent draft snapshot = true ∧
      Lasts draft snapshot past reopened ∧
      (told (past ++ reopened)).isCurrent draft snapshot = false := by
  intro past changes reopened snapshot
  have hsnapshot : (told past).get? draft = some snapshot := rfl
  have hchanges : Lasts draft snapshot past changes := lasts_of_get? (by decide) hsnapshot
  have hreopened : Lasts draft snapshot past reopened := lasts_of_get? (by decide) hsnapshot
  refine ⟨hsnapshot, hchanges, hchanges.isCurrent.mpr (by decide), hreopened, ?_⟩
  exact hreopened.replaced changes (.closed draft) [.opened draft "b" 2 "fish"] rfl (by decide)

end ScriptCheck.Server.DocumentStore

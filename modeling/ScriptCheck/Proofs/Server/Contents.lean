import Mathlib.Data.List.Induction
import ScriptCheck.Proofs.Server.Generation

/-! What an open document holds, by what was told of it since it was opened: the text that was
told last, the version of the last change, and unsaved changes just when a change came after the
opening and the last save. -/

namespace ScriptCheck.Server.DocumentStore

variable {uri : Uri} {d : Document} {event : Event} {events : List Event}

def Event.newText? (uri : Uri) : Event → Option String
  | changed u text _ => if u = uri then some text else none
  | saved u text => if u = uri then text else none
  | _ => none

def lastText? (uri : Uri) (events : List Event) : Option String :=
  (events.filterMap (·.newText? uri)).getLast?

def Event.changes (uri : Uri) : Event → Bool
  | changed u .. => u = uri
  | _ => false

def Event.settles (uri : Uri) : Event → Bool
  | opened u .. => u = uri
  | saved u _ => u = uri
  | _ => false

def Settled (uri : Uri) (events : List Event) : Prop :=
  ∃ before event since, events = before ++ event :: since ∧ event.settles uri ∧
    ∀ later ∈ since, ¬ later.changes uri

theorem Event.newText?_of_ne (hu : event.uri ≠ uri) : event.newText? uri = none := by
  cases event with
  | changed u text version => exact if_neg hu
  | saved u text => exact if_neg hu
  | _ => rfl

theorem Event.changes_of_ne (hu : event.uri ≠ uri) : event.changes uri = false := by
  cases event with
  | changed u text version => exact decide_eq_false hu
  | _ => rfl

theorem Event.settles_of_ne (hu : event.uri ≠ uri) : event.settles uri = false := by
  cases event with
  | opened u text version language => exact decide_eq_false hu
  | saved u text => exact decide_eq_false hu
  | _ => rfl

theorem lastText?_concat (events : List Event) (event : Event) :
    lastText? uri (events ++ [event]) = (event.newText? uri).or (lastText? uri events) := by
  unfold lastText?
  cases hevent : event.newText? uri <;> simp [hevent]

theorem lastVersion?_concat (events : List Event) (event : Event) :
    lastVersion? uri (events ++ [event]) =
      (event.newVersion? uri).or (lastVersion? uri events) := by
  unfold lastVersion?
  cases hevent : event.newVersion? uri <;> simp [hevent]

theorem settled_concat (events : List Event) (event : Event) :
    Settled uri (events ++ [event]) ↔
      event.settles uri ∨ (¬ event.changes uri ∧ Settled uri events) := by
  constructor
  · rintro ⟨before, first, since, heq, hsettles, hlater⟩
    rcases List.eq_nil_or_concat since with rfl | ⟨since, last, rfl⟩
    · obtain ⟨-, hlast⟩ := List.append_inj' heq rfl
      obtain rfl : event = first := List.singleton_inj.mp hlast
      exact .inl hsettles
    · rw [List.concat_eq_append, ← List.cons_append, ← List.append_assoc] at heq
      obtain ⟨rfl, hlast⟩ := List.append_inj' heq rfl
      obtain rfl : event = last := List.singleton_inj.mp hlast
      rw [List.concat_eq_append] at hlater
      refine .inr ⟨hlater event (by simp), before, first, since, rfl, hsettles, ?_⟩
      exact fun later hmem => hlater later (List.mem_append_left _ hmem)
  · rintro (hsettles | ⟨hchanges, before, first, since, rfl, hsettles, hlater⟩)
    · exact ⟨events, event, [], rfl, hsettles, by simp⟩
    · refine ⟨before, first, since ++ [event], by simp, hsettles, fun later hmem => ?_⟩
      rcases List.mem_append.mp hmem with hmem | hmem
      · exact hlater later hmem
      · rw [List.mem_singleton.mp hmem]
        exact hchanges

structure Told (uri : Uri) (events : List Event) (d : Document) : Prop where
  since : ∃ before text version since,
    events = before ++ .opened uri text version d.language :: since ∧
      (∀ event ∈ since, ¬ event.replaces uri) ∧ d.text = (lastText? uri since).getD text ∧
      d.version = (lastVersion? uri since).getD version
  clean : d.dirty = false ↔ Settled uri events

namespace Told

theorem concat {e : Document} (h : Told uri events d) (hreplaces : event.replaces uri = false)
    (hlanguage : e.language = d.language) (htext : e.text = (event.newText? uri).getD d.text)
    (hversion : e.version = (event.newVersion? uri).getD d.version)
    (hclean : e.dirty = false ↔ event.settles uri ∨ (¬ event.changes uri ∧ d.dirty = false)) :
    Told uri (events ++ [event]) e where
  since := by
    obtain ⟨before, text, version, since, rfl, hkept, hd, hv⟩ := h.since
    refine ⟨before, text, version, since ++ [event], by simp [hlanguage], ?_, ?_, ?_⟩
    · intro later hmem
      rcases List.mem_append.mp hmem with hmem | hmem
      · exact hkept later hmem
      · simp [List.mem_singleton.mp hmem, hreplaces]
    · rw [htext, hd, lastText?_concat]
      cases event.newText? uri <;> rfl
    · rw [hversion, hv, lastVersion?_concat]
      cases event.newVersion? uri <;> rfl
  clean := by rw [settled_concat, hclean, h.clean]

theorem concat_of_ne (h : Told uri events d) (hu : event.uri ≠ uri) :
    Told uri (events ++ [event]) d := by
  have htext := Event.newText?_of_ne hu
  have hversion := Event.newVersion?_of_ne hu
  have hsettles := Event.settles_of_ne hu
  have hchanges := Event.changes_of_ne hu
  refine h.concat (Event.replaces_of_ne hu) rfl ?_ ?_ ?_
  · rw [htext, Option.getD_none]
  · rw [hversion, Option.getD_none]
  · simp [hsettles, hchanges]

theorem opening (events : List Event) (text : String) (version : Int) (language : String)
    (generation : Nat) : Told uri (events ++ [.opened uri text version language])
      ⟨text, version, language, false, generation⟩ where
  since := ⟨events, text, version, [], rfl, by simp, rfl, rfl⟩
  clean := by
    rw [settled_concat]
    simp [Event.settles]

end Told

theorem told_get? (hd : (told events).get? uri = some d) : Told uri events d := by
  induction events using List.reverseRecOn generalizing d with
  | nil => cases hd
  | append_singleton events event ih =>
    rw [told_append] at hd
    by_cases hu : event.uri = uri
    · subst hu
      cases event with
      | opened u text version language =>
        rw [List.foldl_cons, List.foldl_nil, DocumentStore.apply, Event.uri, get?_open,
          if_pos rfl] at hd
        cases hd
        exact .opening events text version language _
      | changed u text version =>
        rw [List.foldl_cons, List.foldl_nil, DocumentStore.apply, Event.uri, get?_change,
          if_pos rfl] at hd
        obtain ⟨e, he, rfl⟩ := Option.map_eq_some_iff.mp hd
        refine (ih he).concat rfl rfl ?_ ?_ ?_ <;>
          simp [Event.uri, Event.newText?, Event.newVersion?, Event.settles, Event.changes]
      | saved u text =>
        rw [List.foldl_cons, List.foldl_nil, DocumentStore.apply, Event.uri, get?_save,
          if_pos rfl] at hd
        obtain ⟨e, he, rfl⟩ := Option.map_eq_some_iff.mp hd
        refine (ih he).concat rfl rfl ?_ ?_ ?_ <;>
          simp [Event.uri, Event.newText?, Event.newVersion?, Event.settles]
      | closed u =>
        rw [List.foldl_cons, List.foldl_nil, DocumentStore.apply, Event.uri, get?_close,
          if_pos rfl] at hd
        cases hd
    · rw [List.foldl_cons, List.foldl_nil, get?_apply_of_ne _ hu] at hd
      exact (ih hd).concat_of_ne hu

theorem lastText?_filter (uri : Uri) (events : List Event) :
    lastText? uri (events.filter (·.uri = uri)) = lastText? uri events := by
  unfold lastText?
  rw [filterMap_filter_uri fun _ hu => Event.newText?_of_ne hu]

theorem settled_filter (uri : Uri) (events : List Event) :
    Settled uri (events.filter (·.uri = uri)) ↔ Settled uri events := by
  induction events using List.reverseRecOn with
  | nil => exact Iff.rfl
  | append_singleton events event ih =>
    by_cases hu : event.uri = uri
    · have hlast : [event].filter (·.uri = uri) = [event] := by simp [hu]
      rw [List.filter_append, hlast, settled_concat, settled_concat, ih]
    · have hlast : [event].filter (·.uri = uri) = [] := by simp [hu]
      rw [List.filter_append, hlast, List.append_nil, ih, settled_concat,
        Event.settles_of_ne hu, Event.changes_of_ne hu]
      simp

theorem Told.filter (h : Told uri events d) : Told uri (events.filter (·.uri = uri)) d where
  since := by
    obtain ⟨before, text, version, since, rfl, hkept, htext, hversion⟩ := h.since
    refine ⟨before.filter (·.uri = uri), text, version, since.filter (·.uri = uri), ?_, ?_, ?_, ?_⟩
    · simp [Event.uri]
    · exact (replaces_filter uri since).mpr hkept
    · rw [lastText?_filter, htext]
    · rw [lastVersion?_filter, hversion]
  clean := h.clean.trans (settled_filter uri events).symm

end ScriptCheck.Server.DocumentStore

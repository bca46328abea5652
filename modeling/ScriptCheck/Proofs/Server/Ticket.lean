import ScriptCheck.Limits
import ScriptCheck.Server.Debouncer

/-! Which tickets are current after any events. The number of a ticket is not given twice, whatever
the keys are and whatever was cancelled, so a ticket is out for good once another was issued for
its key or the key was cancelled. Of triggers that come in a burst only the last can still count
when its wait is over. -/

namespace ScriptCheck.Server.Debouncer

variable {κ : Type}

inductive Event (κ : Type) where
  | issued (key : κ)
  | cancelled (key : κ)
deriving DecidableEq

namespace Event

def key : Event κ → κ
  | issued key => key
  | cancelled key => key

def isIssue : Event κ → Bool
  | issued _ => true
  | cancelled _ => false

end Event

variable [DecidableEq κ] {d : Debouncer κ} {key : κ} {ticket : Ticket} {lost : Bool}
  {past since rest : List (Event κ)}

def apply (d : Debouncer κ) : Event κ → Debouncer κ
  | .issued key => d.issue key
  | .cancelled key => d.cancel key

def told (events : List (Event κ)) : Debouncer κ := events.foldl apply empty

theorem told_append (past since : List (Event κ)) :
    told (past ++ since) = since.foldl apply (told past) := List.foldl_append

theorem issued_told (events : List (Event κ)) :
    (told events).issued = events.countP Event.isIssue := by
  have hfold (d : Debouncer κ) :
      (events.foldl apply d).issued = d.issued + events.countP Event.isIssue := by
    induction events generalizing d with
    | nil => rfl
    | cons event events ih =>
      rw [List.foldl_cons, ih, List.countP_cons]
      cases event with
      | issued key =>
        have hissue : (d.apply (.issued key)).issued = d.issued + 1 := rfl
        rw [hissue, Event.isIssue, if_pos rfl, Nat.add_assoc, Nat.add_comm 1]
      | cancelled key => rfl
  have hempty : (empty : Debouncer κ).issued = 0 := rfl
  rw [told, hfold, hempty, Nat.zero_add]

def Numbered (d : Debouncer κ) : Prop :=
  ∀ key ticket, d.isCurrent key ticket → ticket.number ≤ d.issued

theorem numbered_empty : (empty : Debouncer κ).Numbered := by
  intro key ticket hcurrent
  have hnone : (empty : Debouncer κ).isCurrent key ticket = false := rfl
  rw [hnone] at hcurrent
  cases hcurrent

theorem Numbered.apply (hd : d.Numbered) (event : Event κ) : (d.apply event).Numbered := by
  intro k ticket hcurrent
  cases event with
  | issued key =>
    show ticket.number ≤ d.issued + 1
    rw [Debouncer.apply, isCurrent_issue] at hcurrent
    split at hcurrent
    · rw [← of_decide_eq_true hcurrent]
      exact Nat.le_refl _
    · exact Nat.le_succ_of_le (hd k ticket hcurrent)
  | cancelled key =>
    rw [Debouncer.apply, isCurrent_cancel, Bool.and_eq_true] at hcurrent
    exact hd k ticket hcurrent.2

theorem numbered_told (events : List (Event κ)) : (told events).Numbered := by
  have hfold (d : Debouncer κ) (hd : d.Numbered) : (events.foldl apply d).Numbered := by
    induction events generalizing d with
    | nil => exact hd
    | cons event events ih => exact ih _ (hd.apply event)
  exact hfold empty numbered_empty

/-- A ticket that was issued for a key counts for that key alone, and only until it is lost. -/
structure Held (key : κ) (ticket : Ticket) (lost : Bool) (d : Debouncer κ) : Prop where
  issued : ticket.number ≤ d.issued
  isCurrent : ∀ k, d.isCurrent k ticket = (decide (k = key) && !lost)

theorem held_issue (hd : d.Numbered) (key : κ) : Held key d.next false (d.issue key) where
  issued := Nat.le_refl _
  isCurrent := by
    intro k
    rw [isCurrent_issue]
    by_cases hk : k = key
    · simp [hk]
    · have hnew : d.isCurrent k d.next = false := by
        refine Bool.eq_false_iff.mpr fun hcurrent => ?_
        exact absurd (hd k d.next hcurrent) (Nat.not_succ_le_self d.issued)
      simp [hk, hnew]

namespace Held

theorem apply (h : Held key ticket lost d) (event : Event κ) :
    Held key ticket (lost || decide (event.key = key)) (d.apply event) := by
  cases event with
  | issued u =>
    have hother : decide (d.next = ticket) = false := by
      refine decide_eq_false fun hsame => ?_
      have hnumber : d.next.number ≤ d.issued := by
        rw [hsame]
        exact h.issued
      exact Nat.not_succ_le_self _ hnumber
    refine ⟨Nat.le_succ_of_le h.issued, fun k => ?_⟩
    rw [Debouncer.apply, isCurrent_issue, hother, h.isCurrent, Event.key]
    by_cases hk : k = u <;> by_cases hu : u = key <;> simp_all
  | cancelled u =>
    refine ⟨h.issued, fun k => ?_⟩
    rw [Debouncer.apply, isCurrent_cancel, h.isCurrent, Event.key]
    by_cases hk : k = u <;> by_cases hu : u = key <;> simp_all

theorem foldl (h : Held key ticket lost d) (events : List (Event κ)) :
    Held key ticket (lost || events.any fun event => event.key = key)
      (events.foldl Debouncer.apply d) := by
  induction events generalizing lost d with
  | nil => simpa using h
  | cons event events ih =>
    have hnext := ih (h.apply event)
    rwa [Bool.or_assoc] at hnext

end Held

theorem isCurrent_told (past since : List (Event κ)) (key k : κ) :
    (told (past ++ .issued key :: since)).isCurrent k (told past).next ↔
      k = key ∧ ∀ event ∈ since, event.key ≠ k := by
  have hheld := (held_issue (numbered_told past) key).foldl since
  rw [told_append]
  show (since.foldl apply ((told past).issue key)).isCurrent k (told past).next ↔ _
  rw [hheld.isCurrent, Bool.false_or, Bool.and_eq_true, decide_eq_true_eq]
  refine and_congr_right fun hk => ?_
  simp [hk]

theorem eq_of_next_eq {past' rest' : List (Event κ)} {key' : κ}
    (hcalls : past ++ .issued key :: rest = past' ++ .issued key' :: rest')
    (hticket : (told past).next = (told past').next) : past = past' := by
  have hcount : past.countP Event.isIssue = past'.countP Event.isIssue := by
    have hnumber := congrArg Ticket.number hticket
    rw [← issued_told, ← issued_told]
    exact Nat.succ.inj hnumber
  have hlt {a b x y : List (Event κ)} {p q : κ}
      (heq : a ++ .issued p :: x = b ++ .issued q :: y)
      (hsame : a.countP Event.isIssue = b.countP Event.isIssue) : b.length ≤ a.length := by
    refine Nat.le_of_not_lt fun hshort => ?_
    have hprefix : a ++ [.issued p] <+: b := by
      have hone : a ++ [.issued p] <+: a ++ .issued p :: x := ⟨x, by simp⟩
      refine List.prefix_of_prefix_length_le hone ⟨_, heq.symm⟩ ?_
      rw [List.length_append]
      exact hshort
    have hmore := hprefix.sublist.countP_le (p := Event.isIssue)
    rw [List.countP_append, List.countP_singleton] at hmore
    simp only [Event.isIssue, if_true] at hmore
    omega
  have hlength := Nat.le_antisymm (hlt hcalls.symm hcount.symm) (hlt hcalls hcount)
  exact (List.append_inj hcalls hlength).1

/-- What becomes of the tickets that are issued along some events. A call is known by what comes
before it, and a point of time by what came until then. -/
structure Superseding (events : List (Event κ)) : Prop where
  isCurrent : ∀ past key since rest, events = past ++ .issued key :: since ++ rest →
    ∀ k, (told (past ++ .issued key :: since)).isCurrent k (told past).next ↔
      k = key ∧ ∀ event ∈ since, event.key ≠ k
  distinct : ∀ past key rest past' key' rest', events = past ++ .issued key :: rest →
    events = past' ++ .issued key' :: rest' → past ≠ past' → (told past).next ≠ (told past').next
  single : ∀ now, now <+: events → ∀ key ticket other,
    (told now).isCurrent key ticket → (told now).isCurrent key other → ticket = other
  settled : ∀ past burst rest, events = past ++ burst ++ rest →
    ∀ before key after, burst = before ++ .issued key :: after → ∀ since, since <+: rest →
      (told (past ++ burst ++ since)).isCurrent key (told (past ++ before)).next →
        .issued key ∉ after
  numbers : ∀ past key rest, events = past ++ .issued key :: rest →
    (told past).next.number < limit64

theorem superseding_of_countP {events : List (Event κ)}
    (hissues : events.countP Event.isIssue < limit64) : Superseding events where
  isCurrent past key since rest _ k := isCurrent_told past since key k
  distinct := by
    intro past key rest past' key' rest' hcall hother hne hsame
    exact hne (eq_of_next_eq (hcall.symm.trans hother) hsame)
  single := by
    intro now _ key ticket other hticket hother
    have hfirst : (told now).current.get? key = some ticket := of_decide_eq_true hticket
    have hsecond : (told now).current.get? key = some other := of_decide_eq_true hother
    exact Option.some.inj (hfirst.symm.trans hsecond)
  settled := by
    rintro past burst rest - before key after rfl since - hcurrent hmem
    have hcalls : past ++ (before ++ .issued key :: after) ++ since =
        past ++ before ++ .issued key :: (after ++ since) := by simp
    rw [hcalls, isCurrent_told] at hcurrent
    exact hcurrent.2 _ (List.mem_append_left _ hmem) rfl
  numbers := by
    rintro past key rest rfl
    have hnumber : (told past).next.number = past.countP Event.isIssue + 1 :=
      congrArg (· + 1) (issued_told past)
    rw [List.countP_append, List.countP_cons] at hissues
    simp only [Event.isIssue, if_true] at hissues
    omega

theorem superseding_of_countP_burst :
    let burst : List (Event Bool) := [.issued true, .issued false, .issued true]
    let events := [.issued false] ++ burst ++ [.cancelled false, .issued false]
    Superseding events ∧ (told events).isCurrent true ⟨4⟩ = true ∧
      (told events).isCurrent true ⟨2⟩ = false ∧ (told events).isCurrent false ⟨3⟩ = false := by
  intro burst events
  have hall : Superseding events := superseding_of_countP (by decide)
  have hlast := hall.isCurrent [.issued false, .issued true, .issued false] true
    [.cancelled false, .issued false] [] rfl true
  refine ⟨hall, hlast.mpr ⟨rfl, by decide⟩, ?_, ?_⟩
  · refine Bool.eq_false_iff.mpr fun hcurrent => ?_
    exact hall.settled [.issued false] burst _ rfl [] true [.issued false, .issued true] rfl
      [.cancelled false, .issued false] (List.prefix_refl _) hcurrent (by decide)
  · refine Bool.eq_false_iff.mpr fun hcurrent => ?_
    have hsince := (hall.isCurrent [.issued false, .issued true] false
      [.issued true, .cancelled false, .issued false] [] rfl false).mp hcurrent
    exact hsince.2 (.cancelled false) (by decide) rfl

end ScriptCheck.Server.Debouncer

import Mathlib.Data.List.Forall2
import ScriptCheck.Proofs.Host.Process
import ScriptCheck.Tool.Scripts

/-! What actions return and what they leave behind. Most of them only write to the log, let time
pass or complain, which makes no difference to anything that is done with files and programs
afterwards. -/

namespace ScriptCheck

variable {α β : Type} {h g t u : Host} {a : α} {b : β}

namespace Host

/-- The machine `g` is `h` but for the error output, the time and the log. -/
def Alike (h g : Host) : Prop :=
  ∃ errors clockMs journal,
    g = { h with console := { h.console with errors }, clockMs, journal }

namespace Alike

theorem refl (h : Host) : h.Alike h := ⟨_, _, _, rfl⟩

theorem trans (hg : h.Alike g) (ht : g.Alike t) : h.Alike t := by
  obtain ⟨_, _, _, rfl⟩ := hg
  obtain ⟨errors, clockMs, journal, rfl⟩ := ht
  exact ⟨errors, clockMs, journal, rfl⟩

theorem symm (hg : h.Alike g) : g.Alike h := by
  obtain ⟨_, _, _, rfl⟩ := hg
  exact ⟨h.console.errors, h.clockMs, h.journal, rfl⟩

theorem sameLayout (hg : h.Alike g) : h.SameLayout g := by
  obtain ⟨_, _, _, rfl⟩ := hg
  exact ⟨.refl _, rfl, rfl⟩

theorem start_eq (hg : h.Alike g) (inv : Invocation) : g.start inv = h.start inv :=
  hg.sameLayout.start_eq inv

theorem setTree (hg : h.Alike g) (tree : Node) : (h.setTree tree).Alike (g.setTree tree) := by
  obtain ⟨errors, clockMs, journal, rfl⟩ := hg
  exact ⟨errors, clockMs, journal, rfl⟩

theorem tree_eq (hg : h.Alike g) : g.tree = h.tree := by
  obtain ⟨_, _, _, rfl⟩ := hg
  rfl

theorem output_eq (hg : h.Alike g) : g.console.output = h.console.output := by
  obtain ⟨_, _, _, rfl⟩ := hg
  rfl

theorem readText_eq (hg : h.Alike g) (path : Path) : g.readText path = h.readText path := by
  obtain ⟨_, _, _, rfl⟩ := hg
  rfl

theorem resolve?_eq (hg : h.Alike g) (program : Path) :
    g.resolve? program = h.resolve? program := by
  obtain ⟨_, _, _, rfl⟩ := hg
  rfl

theorem find_eq (hg : h.Alike g) (paths : List Path) :
    Scripts.find g paths = Scripts.find h paths := by
  obtain ⟨_, _, _, rfl⟩ := hg
  rfl

end Alike
end Host

/-- Run on `h`, an action returns `a` and leaves a machine like `t`. -/
def Ends (x : Action α) (h : Host) (a : α) (t : Host) : Prop := ∃ g, x.run h = (a, g) ∧ t.Alike g

theorem Ends.run_fst {x : Action α} (hx : Ends x h a t) : (x.run h).1 = a := by
  obtain ⟨g, hrun, -⟩ := hx
  rw [hrun]

theorem ends_pure (a : α) (ht : t.Alike h) : Ends (pure a) h a t := ⟨h, rfl, ht⟩

theorem ends_get (ht : t.Alike h) : Ends get h h t := ⟨h, rfl, ht⟩

theorem ends_note (level : LogLevel) (target : String) (ht : t.Alike h) :
    Ends (note level target) h () t :=
  ⟨_, rfl, ht.trans ⟨_, _, _, rfl⟩⟩

theorem ends_pass (ms : Nat) (ht : t.Alike h) : Ends (pass ms) h () t :=
  ⟨_, rfl, ht.trans ⟨_, _, _, rfl⟩⟩

theorem ends_complain (line : String) (ht : t.Alike h) : Ends (complain line) h () t :=
  ⟨_, rfl, ht.trans ⟨_, _, _, rfl⟩⟩

theorem Ends.bind {x : Action α} {f : α → Action β} (hx : Ends x h a t)
    (hf : ∀ g, t.Alike g → Ends (f a) g b u) : Ends (x >>= f) h b u := by
  obtain ⟨g, hrun, hg⟩ := hx
  obtain ⟨k, hnext, hk⟩ := hf g hg
  refine ⟨k, ?_, hk⟩
  rw [StateT.run_bind, hrun]
  exact hnext

theorem ends_lift {x : Action α} (hx : Ends x h a t) :
    Ends (liftM x : Attempt α).run h (.ok a) t := by
  obtain ⟨g, hrun, hg⟩ := hx
  refine ⟨g, ?_, hg⟩
  show (x >>= fun a => Pure.pure (Except.ok a)).run h = _
  rw [StateT.run_bind, hrun]
  rfl

theorem ends_getThe (ht : t.Alike h) : Ends (getThe Host : Attempt Host).run h (.ok h) t :=
  ⟨h, rfl, ht⟩

theorem ends_throw (e : ToolError) (ht : t.Alike h) :
    Ends (throw e : Attempt α).run h (.error e) t := ⟨h, rfl, ht⟩

theorem Ends.ok_bind {x : Attempt α} {f : α → Attempt β} {r : Except ToolError β}
    (hx : Ends x.run h (.ok a) t) (hf : ∀ g, t.Alike g → Ends (f a).run g r u) :
    Ends (x >>= f).run h r u := by
  rw [ExceptT.run_bind]
  exact hx.bind hf

theorem Ends.error_bind {x : Attempt α} {e : ToolError} (hx : Ends x.run h (.error e) t)
    (f : α → Attempt β) : Ends (x >>= f).run h (.error e) t := by
  rw [ExceptT.run_bind]
  exact hx.bind fun g hg => ends_pure _ hg

theorem Ends.attempt_bind {x : Attempt α} {f : α → Attempt β} {r : Except ToolError α}
    {next : α → Except ToolError β} (hx : Ends x.run h r t)
    (hf : ∀ a g, t.Alike g → Ends (f a).run g (next a) t) :
    Ends (x >>= f).run h (r.bind next) t := by
  cases r with
  | ok a => exact hx.ok_bind (hf a)
  | error e => exact hx.error_bind f

theorem ends_liftExcept (r : Except ToolError α) (ht : t.Alike h) :
    Ends (liftExcept r : Attempt α).run h r t := by
  cases r with
  | ok a => exact ⟨h, rfl, ht⟩
  | error e => exact ⟨h, rfl, ht⟩

theorem ends_exec (inv : Invocation) (ht : t.Alike h) :
    Ends (exec inv).run h (inv.answer t) t := by
  unfold exec
  refine (ends_lift (ends_note .debug execTarget ht)).ok_bind fun g hg => ?_
  refine (ends_getThe hg).ok_bind fun k hk => ?_
  rw [hg.start_eq inv]
  unfold Invocation.answer Invocation.result
  cases t.start inv with
  | error e => cases e <;> exact ends_throw _ hk
  | ok started =>
    obtain ⟨place, outcome⟩ := started
    simp only
    cases inv.expiry? outcome with
    | some limit =>
      refine (ends_lift (ends_pass limit hk)).ok_bind fun m hm => ?_
      refine (ends_lift (ends_note .warn execTarget hm)).ok_bind fun n hn => ?_
      exact ends_throw _ hn
    | none =>
      refine (ends_lift (ends_pass outcome.delayMs hk)).ok_bind fun m hm => ?_
      have hlast (n : Host) (hn : t.Alike n) :
          Ends (do note .debug execTarget; pure outcome.output : Attempt ProcessOutput).run n
            (.ok outcome.output) t :=
        (ends_lift (ends_note .debug execTarget hn)).ok_bind fun _ hlog => ends_pure _ hlog
      split
      · exact (ends_lift (ends_note .debug execTarget hm)).ok_bind hlast
      · exact hlast m hm

/-- What an action returns for each element of a list, when the machine goes on from `t` by
steps. -/
def resultsAlong (result : Host → α → β) (step : Host → α → Host) : Host → List α → List β
  | _, [] => []
  | t, a :: as => result t a :: resultsAlong result step (step t a) as

theorem ends_mapM {f : α → Action β} {result : Host → α → β} {step : Host → α → Host}
    (hf : ∀ a t h, t.Alike h → Ends (f a) h (result t a) (step t a)) (as : List α)
    (ht : t.Alike h) : Ends (as.mapM f) h (resultsAlong result step t as) (as.foldl step t) := by
  induction as generalizing t h with
  | nil => exact ends_pure [] ht
  | cons a as ih =>
    rw [List.mapM_cons]
    refine (hf a t h ht).bind fun g hg => ?_
    refine (ih hg).bind fun k hk => ?_
    exact ends_pure _ hk

theorem resultsAlong_same (result : Host → α → β) (t : Host) (as : List α) :
    resultsAlong result (fun t _ => t) t as = as.map (result t) := by
  induction as with
  | nil => rfl
  | cons a as ih => exact congrArg (result t a :: ·) ih

theorem resultsAlong_append (result : Host → α → β) (step : Host → α → Host) (t : Host)
    (as as' : List α) : resultsAlong result step t (as ++ as') =
      resultsAlong result step t as ++ resultsAlong result step (as.foldl step t) as' := by
  induction as generalizing t with
  | nil => rfl
  | cons a as ih => exact congrArg (result t a :: ·) (ih (step t a))

theorem length_resultsAlong (result : Host → α → β) (step : Host → α → Host) (t : Host)
    (as : List α) : (resultsAlong result step t as).length = as.length := by
  induction as generalizing t with
  | nil => rfl
  | cons a as ih => exact congrArg (· + 1) (ih (step t a))

theorem resultsAlong_map {γ : Type} (result : Host → β → γ) (step : Host → β → Host) (f : α → β)
    (t : Host) (as : List α) : resultsAlong result step t (as.map f) =
      resultsAlong (fun t a => result t (f a)) (fun t a => step t (f a)) t as := by
  induction as generalizing t with
  | nil => rfl
  | cons a as ih => exact congrArg (result t (f a) :: ·) (ih (step t (f a)))

theorem run_mapM (f : α → Action β) (as : List α) (h : Host) : (as.mapM f).run h =
    (resultsAlong (fun h a => ((f a).run h).1) (fun h a => ((f a).run h).2) h as,
      as.foldl (fun h a => ((f a).run h).2) h) := by
  induction as generalizing h with
  | nil => rfl
  | cons a as ih =>
    rw [List.mapM_cons, StateT.run_bind]
    show ((as.mapM f) >>= fun bs => pure (((f a).run h).1 :: bs)).run ((f a).run h).2 = _
    rw [StateT.run_bind, ih]
    rfl

/-- An action for which alike machines are the same. -/
def Uniform (x : Action α) : Prop := ∀ t h : Host, t.Alike h → Ends x h (x.run t).1 (x.run t).2

theorem uniform_of_ends {x : Action α} {a : Host → α} {u : Host → Host}
    (hx : ∀ t h : Host, t.Alike h → Ends x h (a t) (u t)) : Uniform x := by
  intro t h ht
  obtain ⟨g, hrun, hg⟩ := hx t h ht
  obtain ⟨k, hrunt, hk⟩ := hx t t (.refl t)
  rw [hrunt]
  exact ⟨g, hrun, hk.symm.trans hg⟩

theorem Uniform.bind {x : Action α} {f : α → Action β} (hx : Uniform x) (hf : ∀ a, Uniform (f a)) :
    Uniform (x >>= f) := by
  intro t h ht
  rw [StateT.run_bind]
  exact (hx t h ht).bind fun g hg => hf _ _ g hg

theorem resultsAlong_alike {f : α → Action β} {as : List α} (hf : ∀ a ∈ as, Uniform (f a))
    (ht : t.Alike h) :
    resultsAlong (fun h a => ((f a).run h).1) (fun h a => ((f a).run h).2) h as =
      resultsAlong (fun h a => ((f a).run h).1) (fun h a => ((f a).run h).2) t as := by
  induction as generalizing t h with
  | nil => rfl
  | cons a as ih =>
    obtain ⟨g, hrun, hg⟩ := hf a List.mem_cons_self t h ht
    have hrest := ih (fun b hb => hf b (List.mem_cons_of_mem _ hb)) hg
    simp only [resultsAlong, hrun, hrest]

theorem mapM_singleton {m : Type → Type} [Monad m] [LawfulMonad m] (f : α → m β) (a : α) :
    [a].mapM f = f a >>= fun b => pure [b] := by
  rw [List.mapM_cons, List.mapM_nil]
  simp only [pure_bind]

theorem ends_attempt_mapM {f : α → Attempt β} {made : Host → α → Except ToolError β}
    (hf : ∀ a t h, t.Alike h → Ends (f a).run h (made t a) t) (as : List α) (ht : t.Alike h) :
    Ends (as.mapM f).run h (as.mapM (made t)) t := by
  induction as generalizing h with
  | nil => exact ends_pure (Except.ok []) ht
  | cons a as ih =>
    rw [List.mapM_cons, List.mapM_cons]
    refine (hf a t h ht).attempt_bind fun b g hg => ?_
    exact (ih hg).attempt_bind fun bs k hk => ends_pure _ hk

theorem mapM_ok_or_error {ε : Type} (f : α → Except ε β) (as : List α) :
    (∃ bs, as.mapM f = .ok bs ∧ List.Forall₂ (f · = .ok ·) as bs) ∨
      ∃ before a later e, as = before ++ a :: later ∧ (∀ b ∈ before, ∃ r, f b = .ok r) ∧
        f a = .error e ∧ as.mapM f = .error e := by
  induction as with
  | nil => exact .inl ⟨[], rfl, .nil⟩
  | cons a as ih =>
    rw [List.mapM_cons]
    cases ha : f a with
    | error e => exact .inr ⟨[], a, as, e, rfl, by simp, ha, rfl⟩
    | ok b =>
      rcases ih with ⟨bs, hbs, hall⟩ | ⟨before, c, later, e, rfl, hbefore, hc, hrest⟩
      · exact .inl ⟨b :: bs, by rw [hbs]; rfl, .cons ha hall⟩
      · refine .inr ⟨a :: before, c, later, e, rfl, ?_, hc, by rw [hrest]; rfl⟩
        exact List.forall_mem_cons.mpr ⟨⟨b, ha⟩, hbefore⟩

end ScriptCheck

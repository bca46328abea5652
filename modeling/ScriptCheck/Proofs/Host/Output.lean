import ScriptCheck.Proofs.Host.Action
import ScriptCheck.Proofs.Host.Disk

/-! Actions that do the same whether standard output is read or nobody reads it any more. They
are told apart by a run on two machines that differ in standard output alone, one of which is
heard while the other is not. -/

namespace ScriptCheck

variable {α β : Type} {h g : Host} {a : α}

namespace Host

def withOutput (h : Host) (sink : Sink) (isTerminal : Bool) (output : String) : Host :=
  { h with console := { h.console with sink, isTerminal, output } }

/-- The machine `g` is `h` but for standard output, which is read on `h` and gone on `g`. -/
def Silenced (h g : Host) : Prop :=
  h.console.sink = .opened ∧ ∃ isTerminal output, g = h.withOutput .closed isTerminal output

namespace Silenced

theorem sink_eq (hg : h.Silenced g) : g.console.sink = .closed := by
  obtain ⟨-, _, _, rfl⟩ := hg
  rfl

theorem tree_eq (hg : h.Silenced g) : g.tree = h.tree := by
  obtain ⟨-, _, _, rfl⟩ := hg
  rfl

theorem errors_eq (hg : h.Silenced g) : g.console.errors = h.console.errors := by
  obtain ⟨-, _, _, rfl⟩ := hg
  rfl

theorem readText_eq (hg : h.Silenced g) (path : Path) : g.readText path = h.readText path := by
  obtain ⟨-, _, _, rfl⟩ := hg
  rfl

theorem resolve?_eq (hg : h.Silenced g) (program : Path) :
    g.resolve? program = h.resolve? program := by
  obtain ⟨-, _, _, rfl⟩ := hg
  rfl

theorem sameLayout (hg : h.Silenced g) : h.SameLayout g := by
  obtain ⟨-, _, _, rfl⟩ := hg
  exact ⟨.refl _, rfl, rfl⟩

theorem setTree (hg : h.Silenced g) (tree : Node) : (h.setTree tree).Silenced (g.setTree tree) := by
  obtain ⟨hopen, isTerminal, output, rfl⟩ := hg
  exact ⟨hopen, isTerminal, output, rfl⟩

theorem keepsDisk : KeepsDisk Silenced :=
  ⟨tree_eq, fun hg => hg.sameLayout.workDir, setTree⟩

end Silenced
end Host

/-- Two actions return the same and leave the same, one where it is heard and the other where it
is not. -/
def Agree (x y : Action α) : Prop :=
  ∀ h g, h.Silenced g → (y.run g).1 = (x.run h).1 ∧ (x.run h).2.Silenced (y.run g).2

abbrev Oblivious (x : Action α) : Prop := Agree x x

structure Prints (x : Action α) (a : α) : Prop where
  opened : ∀ h, h.console.sink = .opened → ∃ output,
    x.run h = (a, { h with console := { h.console with output } })
  closed : ∀ h, h.console.sink = .closed → x.run h = (a, h)

theorem Prints.agree {x y : Action α} (hx : Prints x a) (hy : Prints y a) : Agree x y := by
  rintro h _ ⟨hopen, isTerminal, output, rfl⟩
  obtain ⟨_, hheard⟩ := hx.opened h hopen
  have hunheard := hy.closed (h.withOutput .closed isTerminal output) rfl
  rw [hheard, hunheard]
  exact ⟨rfl, hopen, isTerminal, output, rfl⟩

theorem run_get_bind (f : Host → Action α) (h : Host) : (get >>= f).run h = (f h).run h := rfl

theorem prints_pure (a : α) : Prints (pure a) a where
  opened h _ := ⟨h.console.output, rfl⟩
  closed _ _ := rfl

theorem prints_printLine (text : String) : Prints (printLine text) () := by
  unfold printLine
  constructor
  · intro h hopen
    rw [run_get_bind, hopen]
    exact ⟨_, rfl⟩
  · intro h hclosed
    rw [run_get_bind, hclosed]
    rfl

theorem prints_printRaw (text : String) : Prints (printRaw text) (.ok ()) := by
  unfold printRaw
  constructor
  · intro h hopen
    rw [run_get_bind, hopen]
    exact ⟨_, rfl⟩
  · intro h hclosed
    rw [run_get_bind, hclosed]
    rfl

theorem oblivious_pure (a : α) : Oblivious (pure a) := (prints_pure a).agree (prints_pure a)

theorem Agree.bind {x y : Action α} {p q : α → Action β} (hx : Agree x y)
    (hnext : ∀ a, Agree (p a) (q a)) : Agree (x >>= p) (y >>= q) := by
  intro h g hg
  obtain ⟨hsame, hleft⟩ := hx h g hg
  have hrest := hnext (x.run h).1 _ _ hleft
  rw [StateT.run_bind, StateT.run_bind]
  show ((q (y.run g).1).run (y.run g).2).1 = ((p (x.run h).1).run (x.run h).2).1 ∧
    ((p (x.run h).1).run (x.run h).2).2.Silenced ((q (y.run g).1).run (y.run g).2).2
  rw [hsame]
  exact hrest

theorem agree_get_bind {p q : Host → Action β}
    (hnext : ∀ h g, h.Silenced g → Agree (p h) (q g)) : Agree (get >>= p) (get >>= q) :=
  fun h g hg => hnext h g hg h g hg

theorem agree_set (hg : h.Silenced g) : Agree (set h : Action PUnit) (set g) :=
  fun _ _ _ => ⟨rfl, hg⟩

theorem oblivious_modify {change : Host → Host}
    (hchange : ∀ h isTerminal output, change (h.withOutput .closed isTerminal output) =
      (change h).withOutput .closed isTerminal output)
    (hsink : ∀ h, (change h).console.sink = h.console.sink) :
    Oblivious (modify change : Action Unit) := by
  rintro h _ ⟨hopen, isTerminal, output, rfl⟩
  exact ⟨rfl, (hsink h).trans hopen, isTerminal, output, hchange h isTerminal output⟩

theorem oblivious_note (level : LogLevel) (target : String) : Oblivious (note level target) :=
  oblivious_modify (fun _ _ _ => rfl) fun _ => rfl

theorem oblivious_pass (ms : Nat) : Oblivious (pass ms) :=
  oblivious_modify (fun _ _ _ => rfl) fun _ => rfl

theorem oblivious_complain (line : String) : Oblivious (complain line) :=
  oblivious_modify (fun _ _ _ => rfl) fun _ => rfl

theorem oblivious_mapM {f : α → Action β} {as : List α} (hf : ∀ a ∈ as, Oblivious (f a)) :
    Oblivious (as.mapM f) := by
  induction as with
  | nil => exact oblivious_pure []
  | cons a as ih =>
    rw [List.mapM_cons]
    refine (hf a List.mem_cons_self).bind fun b => ?_
    refine (ih fun c hc => hf c (List.mem_cons_of_mem a hc)).bind fun bs => ?_
    exact oblivious_pure _

theorem oblivious_foldlM {f : β → α → Action β} (hf : ∀ b a, Oblivious (f b a)) (as : List α)
    (b : β) : Oblivious (as.foldlM f b) := by
  induction as generalizing b with
  | nil => exact oblivious_pure b
  | cons a as ih =>
    rw [List.foldlM_cons]
    exact (hf b a).bind ih

theorem agree_lift {x y : Action α} (hx : Agree x y) :
    Agree (liftM x : Attempt α).run (liftM y : Attempt α).run :=
  hx.bind fun a => oblivious_pure (Except.ok a)

theorem Agree.attempt_bind {x y : Attempt α} {p q : α → Attempt β} (hx : Agree x.run y.run)
    (hnext : ∀ a, Agree (p a).run (q a).run) : Agree (x >>= p).run (y >>= q).run := by
  rw [ExceptT.run_bind, ExceptT.run_bind]
  refine hx.bind fun r => ?_
  cases r with
  | ok a => exact hnext a
  | error e => exact oblivious_pure _

theorem agree_getThe_bind {p q : Host → Attempt β}
    (hnext : ∀ h g, h.Silenced g → Agree (p h).run (q g).run) :
    Agree (getThe Host >>= p).run (getThe Host >>= q).run :=
  fun h g hg => hnext h g hg h g hg

theorem oblivious_throw (e : ToolError) :
    Oblivious (throw e : Attempt α).run := oblivious_pure (Except.error e)

theorem oblivious_liftExcept (r : Except ToolError α) :
    Oblivious (liftExcept r : Attempt α).run := by
  cases r with
  | ok a => exact oblivious_pure (Except.ok a)
  | error e => exact oblivious_throw e

theorem oblivious_attempt_mapM {f : α → Attempt β} (hf : ∀ a, Oblivious (f a).run)
    (as : List α) : Oblivious (as.mapM f).run := by
  induction as with
  | nil => exact oblivious_pure (Except.ok [])
  | cons a as ih =>
    rw [List.mapM_cons]
    refine (hf a).attempt_bind fun b => ?_
    refine ih.attempt_bind fun bs => ?_
    exact oblivious_pure (Except.ok (b :: bs))

theorem oblivious_exec (inv : Invocation) : Oblivious (exec inv).run := by
  have hnote : Oblivious (liftM (note .debug execTarget) : Attempt Unit).run :=
    agree_lift (oblivious_note .debug execTarget)
  refine hnote.attempt_bind fun _ => agree_getThe_bind fun h g hg => ?_
  rw [hg.sameLayout.start_eq inv]
  cases h.start inv with
  | error e => cases e <;> exact oblivious_throw _
  | ok started =>
    obtain ⟨place, outcome⟩ := started
    simp only
    cases inv.expiry? outcome with
    | some limit =>
      refine (agree_lift (oblivious_pass limit)).attempt_bind fun _ => ?_
      refine (agree_lift (oblivious_note .warn execTarget)).attempt_bind fun _ => ?_
      exact oblivious_throw _
    | none =>
      refine (agree_lift (oblivious_pass outcome.delayMs)).attempt_bind fun _ => ?_
      have hlast : Oblivious (do note .debug execTarget; pure outcome.output :
          Attempt ProcessOutput).run :=
        hnote.attempt_bind fun _ => oblivious_pure (Except.ok outcome.output)
      split
      · exact hnote.attempt_bind fun _ => hlast
      · exact hlast

end ScriptCheck

import ScriptCheck.Proofs.Host.File
import ScriptCheck.Proofs.Tool.Registry
import ScriptCheck.Tool.Formatter

/-! What the formatter makes of a file. Checking a file and fixing it come to the same, but for
how it is reported and for the file that is written. -/

namespace ScriptCheck.Formatter

variable {executable root file : Path} {timeoutMs : Option Nat} {source before after : String}
  {t h g : Host}

def invocation (executable : Path) (timeoutMs : Option Nat) (source : String) : Invocation where
  program := executable
  input := some source
  timeoutMs

def formed (executable : Path) (timeoutMs : Option Nat) (h : Host) (source : String) :
    Except ToolError String :=
  ((invocation executable timeoutMs source).answer h).bind resultOf

def change? (executable : Path) (timeoutMs : Option Nat) (root : Path) (h : Host) (file : Path) :
    Except ToolError (Option (String × String)) :=
  ((h.readText (root.join file)).mapError ToolError.io).bind fun before =>
    (formed executable timeoutMs h before).bind fun after =>
      .ok (if after = before then none else some (before, after))

def rewritten (executable : Path) (timeoutMs : Option Nat) (root : Path) (h : Host) (file : Path) :
    Host :=
  match change? executable timeoutMs root h file with
  | .ok (some (_, after)) => ((h.writeText (root.join file) after).toOption).getD h
  | _ => h

def findings (severity : Severity) (message : String) (file : Path) :
    Option (String × String) → List Diagnostic
  | none => []
  | some (before, after) => [finding severity message file before after]

def reported (tool : Tool) (severity : Severity) (message : String) (file : Path)
    (change? : Except ToolError (Option (String × String))) : ToolResult :=
  Registry.resultFor tool file <|
    change?.map fun change? => .success toolName (findings severity message file change?)

theorem ends_readFile (ht : t.Alike h) :
    Ends (readFile root file).run h ((t.readText (root.join file)).mapError .io) t := by
  refine (ends_getThe ht).ok_bind fun g hg => ?_
  rw [ht.readText_eq]
  cases t.readText (root.join file) with
  | error e => exact ends_throw _ hg
  | ok text => exact ends_pure _ hg

theorem ends_formatText (ht : t.Alike h) :
    Ends (formatText executable timeoutMs source).run h (formed executable timeoutMs t source) t :=
  (ends_exec (invocation executable timeoutMs source) ht).attempt_bind fun _ _ hg =>
    ends_liftExcept _ hg

theorem ends_writeFile {place : Place} {node : Node}
    (hplace : t.locate (root.join file) = .ok place) (hnode : t.tree.at? place = some node)
    (hdir : node.isDir = false) (text : String) (ht : t.Alike h) :
    Ends (writeFile root file text).run h (.ok ())
      (t.setTree (t.tree.put place (node.holding text))) := by
  refine (ends_getThe ht).ok_bind fun g hg => ?_
  have hwrite := Host.writeText_eq (ht.sameLayout.locate_eq _ ▸ hplace) (ht.tree_eq ▸ hnode) hdir
    text
  rw [hwrite, ht.tree_eq]
  exact ⟨_, rfl, ht.setTree _⟩

theorem ends_comparing {treat : String → String → Attempt (List Diagnostic)} {severity : Severity}
    {message : String}
    (hchange : ∀ before after k,
      change? executable timeoutMs root t file = .ok (some (before, after)) → t.Alike k →
        Ends (treat before after).run k (.ok [finding severity message file before after]) g)
    (hkept : (∀ change, change? executable timeoutMs root t file ≠ .ok (some change)) → g = t)
    (ht : t.Alike h) :
    Ends (do
      let before ← readFile root file
      let after ← formatText executable timeoutMs before
      if after = before then pure [] else treat before after : Attempt (List Diagnostic)).run h
      ((change? executable timeoutMs root t file).map (findings severity message file)) g := by
  have hbefore : Ends (readFile root file).run h _ t := ends_readFile ht
  unfold change? at hchange hkept ⊢
  cases hread : (t.readText (root.join file)).mapError ToolError.io with
  | error e =>
    rw [hread] at hbefore hkept
    rw [hkept fun _ hchanged => nomatch hchanged]
    exact hbefore.error_bind _
  | ok before =>
    rw [hread] at hbefore hchange hkept
    refine hbefore.ok_bind fun k hk => ?_
    have hafter : Ends (formatText executable timeoutMs before).run k _ t := ends_formatText hk
    simp only [Except.bind] at hchange hkept ⊢
    cases hformed : formed executable timeoutMs t before with
    | error e =>
      rw [hformed] at hafter hkept
      rw [hkept fun _ hchanged => nomatch hchanged]
      exact hafter.error_bind _
    | ok after =>
      rw [hformed] at hafter hchange hkept
      refine hafter.ok_bind fun m hm => ?_
      by_cases hsame : after = before
      · simp only [if_pos hsame] at hkept ⊢
        rw [hkept fun _ hchanged => nomatch hchanged]
        exact ends_pure (Except.ok []) hm
      · simp only [if_neg hsame] at hchange ⊢
        exact hchange before after m rfl hm

theorem ends_checkFile (ht : t.Alike h) :
    Ends (checkFile executable timeoutMs root file).run h
      ((change? executable timeoutMs root t file).map
        (findings .warning "File is not formatted" file)) t :=
  ends_comparing (fun _ _ _ _ hk => ends_pure _ hk) (fun _ => rfl) ht

theorem change?_eq_ok_some_iff :
    change? executable timeoutMs root h file = .ok (some (before, after)) ↔
      h.readText (root.join file) = .ok before ∧ formed executable timeoutMs h before = .ok after ∧
        after ≠ before := by
  unfold change?
  constructor
  · intro hchange
    cases hread : h.readText (root.join file) with
    | error e =>
      rw [hread] at hchange
      cases hchange
    | ok source =>
      rw [hread] at hchange
      simp only [Except.mapError, Except.bind] at hchange
      cases hformed : formed executable timeoutMs h source with
      | error e =>
        rw [hformed] at hchange
        cases hchange
      | ok text =>
        simp only [hformed, Except.ok.injEq] at hchange
        by_cases hsame : text = source
        · rw [if_pos hsame] at hchange
          cases hchange
        · rw [if_neg hsame] at hchange
          cases hchange
          exact ⟨rfl, hformed, hsame⟩
  · rintro ⟨hread, hformed, hne⟩
    rw [hread]
    simp only [Except.mapError, Except.bind, hformed, if_neg hne]

theorem change?_eq_ok_none {text : String} (hread : h.readText (root.join file) = .ok text)
    (hformed : formed executable timeoutMs h text = .ok text) :
    change? executable timeoutMs root h file = .ok none := by
  unfold change?
  rw [hread]
  simp only [Except.mapError, Except.bind, hformed, if_true]

theorem change?_eq_ok_none_iff : change? executable timeoutMs root h file = .ok none ↔
    ∃ text, h.readText (root.join file) = .ok text ∧
      formed executable timeoutMs h text = .ok text := by
  refine ⟨fun hchange => ?_, fun ⟨_, hread, hformed⟩ => change?_eq_ok_none hread hformed⟩
  unfold change? at hchange
  cases hread : h.readText (root.join file) with
  | error e =>
    rw [hread] at hchange
    cases hchange
  | ok text =>
    simp only [hread, Except.mapError, Except.bind] at hchange
    refine ⟨text, rfl, ?_⟩
    cases hformed : formed executable timeoutMs h text with
    | error e =>
      rw [hformed] at hchange
      cases hchange
    | ok after =>
      by_cases hsame : after = text
      · rw [hsame]
      · simp only [hformed, if_neg hsame, Except.ok.injEq, reduceCtorEq] at hchange

theorem change?_eq_error (hfails : ∀ before after, h.readText (root.join file) = .ok before →
    formed executable timeoutMs h before ≠ .ok after) :
    ∃ e, change? executable timeoutMs root h file = .error e := by
  unfold change?
  cases hread : h.readText (root.join file) with
  | error e => exact ⟨_, rfl⟩
  | ok before =>
    simp only [Except.mapError, Except.bind]
    cases hformed : formed executable timeoutMs h before with
    | error e => exact ⟨e, rfl⟩
    | ok after => exact absurd hformed (hfails before after hread)

theorem ends_fixFile (ht : t.Alike h) :
    Ends (fixFile executable timeoutMs root file).run h
      ((change? executable timeoutMs root t file).map (findings .info "Reformatted file" file))
      (rewritten executable timeoutMs root t file) := by
  refine ends_comparing (fun before after k hchange hk => ?_) (fun hkept => ?_) ht
  · obtain ⟨hread, -, -⟩ := change?_eq_ok_some_iff.mp hchange
    obtain ⟨place, node, hplace, hnode, hdir⟩ := Host.exists_node_of_readText hread
    have hwritten : rewritten executable timeoutMs root t file =
        t.setTree (t.tree.put place (node.holding after)) := by
      unfold rewritten
      rw [hchange]
      simp only [Host.writeText_eq hplace hnode hdir after]
      rfl
    rw [hwritten]
    refine (ends_lift (ends_note .info _ hk)).ok_bind fun m hm => ?_
    exact (ends_writeFile hplace hnode hdir after hm).ok_bind fun n hn => ends_pure _ hn
  · unfold rewritten
    cases hchange : change? executable timeoutMs root t file with
    | error e => rfl
    | ok change =>
      cases change with
      | none => rfl
      | some change => exact absurd hchange (hkept change)

theorem ends_inTurn {treat : Path → Attempt (List Diagnostic)} {severity : Severity}
    {message : String} {change? : Except ToolError (Option (String × String))}
    (hfound : Ends (treat file).run h (change?.map (findings severity message file)) t) :
    Ends (inTurn treat [file]).run h
      (change?.map fun change? => .success toolName (findings severity message file change?))
      t := by
  unfold inTurn
  rw [mapM_singleton, bind_assoc]
  cases change? with
  | error e => exact hfound.error_bind _
  | ok change? =>
    refine hfound.ok_bind fun g hg => ?_
    rw [pure_bind, List.flatten_singleton]
    exact ends_pure _ hg

theorem ends_treatOne_run (ht : t.Alike h) :
    Ends (Registry.treatOne .run root (tool executable timeoutMs) file) h
      (reported (tool executable timeoutMs) .warning "File is not formatted" file
        (change? executable timeoutMs root t file)) t :=
  Registry.ends_treatOne (ends_inTurn (ends_checkFile ht))

theorem ends_treatOne_fix (ht : t.Alike h) :
    Ends (Registry.treatOne .fix root (tool executable timeoutMs) file) h
      (reported (tool executable timeoutMs) .info "Reformatted file" file
        (change? executable timeoutMs root t file))
      (rewritten executable timeoutMs root t file) := by
  refine Registry.ends_treatOne ?_
  show Ends (inTurn (fixFile executable timeoutMs root) [file]).run h _ _
  exact ends_inTurn (ends_fixFile ht)

end ScriptCheck.Formatter

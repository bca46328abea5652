import ScriptCheck.Listing

/-! What a line is read as. It may hold several places where a file name can end, and the
last of them that leaves a message counts. -/

namespace ScriptCheck.Listing

open Text

variable {line s rest digits message : List Char} {h : Header} {c : Char}

/-- A way to read a line as a header. -/
structure Header.Reads (h : Header) (line : List Char) : Prop where
  spelled : line = h.file ++ (opening ++ (h.digits ++ (closing ++ h.message)))
  file : h.file ≠ []
  digits : h.digits ≠ []
  isDigit : ∀ c ∈ h.digits, isDigit c
  message : h.message ≠ []

/-- No other way to read the line has a longer file name. -/
def Header.IsLongest (h : Header) (line : List Char) : Prop :=
  h.Reads line ∧ ∀ other : Header, other.Reads line → other.file.length ≤ h.file.length

theorem takeWhile_digits (hdigits : ∀ c ∈ digits, isDigit c) :
    (digits ++ (closing ++ message)).takeWhile isDigit = digits := by
  rw [List.takeWhile_append_of_pos hdigits]
  have hparen : (closing ++ message).takeWhile isDigit = [] :=
    List.takeWhile_cons_of_neg (by decide)
  rw [hparen, List.append_nil]

theorem dropWhile_digits (hdigits : ∀ c ∈ digits, isDigit c) :
    (digits ++ (closing ++ message)).dropWhile isDigit = closing ++ message := by
  rw [List.dropWhile_append_of_pos hdigits]
  exact List.dropWhile_cons_of_neg (by decide)

theorem of_afterFile? (hs : afterFile? s = some (digits, message)) :
    s = opening ++ (digits ++ (closing ++ message)) ∧ digits ≠ [] ∧ (∀ c ∈ digits, isDigit c) ∧
      message ≠ [] := by
  unfold afterFile? at hs
  split at hs
  · rename_i hopening
    obtain ⟨rest, rfl⟩ := List.isPrefixOf_iff_prefix.mp hopening
    dsimp only at hs
    rw [List.drop_left] at hs
    split at hs
    · rename_i hcond
      simp only [Bool.and_eq_true, Bool.not_eq_true', List.isEmpty_eq_false_iff,
        List.isPrefixOf_iff_prefix, decide_eq_true_eq] at hcond
      obtain ⟨⟨hne, tail, htail⟩, hlength⟩ := hcond
      rw [← htail, List.drop_left, Option.some.injEq, Prod.mk.injEq] at hs
      obtain ⟨rfl, rfl⟩ := hs
      refine ⟨?_, hne, ?_, ?_⟩
      · rw [htail, List.takeWhile_append_dropWhile]
      · intro c hc
        exact List.all_eq_true.mp List.all_takeWhile c hc
      · rintro rfl
        rw [← htail, List.append_nil] at hlength
        exact absurd hlength (Nat.lt_irrefl _)
    · cases hs
  · cases hs

theorem afterFile?_spelled (hne : digits ≠ []) (hdigits : ∀ c ∈ digits, isDigit c)
    (hmessage : message ≠ []) :
    afterFile? (opening ++ (digits ++ (closing ++ message))) = some (digits, message) := by
  unfold afterFile?
  rw [if_pos (List.isPrefixOf_iff_prefix.mpr (List.prefix_append _ _)), List.drop_left]
  simp only [takeWhile_digits hdigits, dropWhile_digits hdigits]
  have hcond : (!digits.isEmpty && closing.isPrefixOf (closing ++ message) &&
      decide (closing.length < (closing ++ message).length)) = true := by
    simp [hne, List.length_pos_iff.mpr hmessage]
  rw [if_pos hcond, List.drop_left]

theorem reads_singleton_iff : (Header.mk [c] digits message).Reads (c :: rest) ↔
    afterFile? rest = some (digits, message) := by
  constructor
  · intro hr
    have hrest := hr.spelled
    rw [List.cons_append, List.nil_append, List.cons.injEq] at hrest
    rw [hrest.2]
    exact afterFile?_spelled hr.digits hr.isDigit hr.message
  · intro hs
    obtain ⟨rfl, hne, hdigits, hmessage⟩ := of_afterFile? hs
    exact ⟨rfl, List.cons_ne_nil _ _, hne, hdigits, hmessage⟩

theorem Header.Reads.cons (hr : h.Reads rest) (c : Char) :
    Header.Reads { h with file := c :: h.file } (c :: rest) where
  spelled := congrArg (c :: ·) hr.spelled
  file := List.cons_ne_nil _ _
  digits := hr.digits
  isDigit := hr.isDigit
  message := hr.message

theorem Header.Reads.cons_cases (hr : h.Reads (c :: rest)) :
    (h.file = [c] ∧ afterFile? rest = some (h.digits, h.message)) ∨
      ∃ k : Header, k.Reads rest ∧ h = { k with file := c :: k.file } := by
  obtain ⟨file, digits, message⟩ := h
  cases file with
  | nil => exact absurd rfl hr.file
  | cons a file =>
    have hspelled := hr.spelled
    rw [List.cons_append, List.cons.injEq] at hspelled
    obtain ⟨rfl, hrest⟩ := hspelled
    cases file with
    | nil => exact .inl ⟨rfl, reads_singleton_iff.mp hr⟩
    | cons b file =>
      exact .inr ⟨⟨b :: file, digits, message⟩,
        ⟨hrest, List.cons_ne_nil _ _, hr.digits, hr.isDigit, hr.message⟩, rfl⟩

theorem not_reads_nil : ¬ h.Reads [] := by
  intro hr
  have hfile : h.file = [] := (List.append_eq_nil_iff.mp hr.spelled.symm).1
  exact hr.file hfile

theorem header?_spec (line : List Char) : match header? line with
    | some h => h.IsLongest line
    | none => ∀ h : Header, ¬ h.Reads line := by
  induction line with
  | nil => exact fun h => not_reads_nil
  | cons c rest ih =>
    unfold header?
    cases hrest : header? rest with
    | some k =>
      rw [hrest] at ih
      obtain ⟨hk, hlongest⟩ := ih
      refine ⟨hk.cons c, fun other hother => ?_⟩
      rcases hother.cons_cases with ⟨hfile, -⟩ | ⟨j, hj, rfl⟩
      · have hone : other.file.length = 1 := congrArg List.length hfile
        exact Nat.le_trans (Nat.le_of_eq hone) (Nat.succ_le_succ (Nat.zero_le _))
      · exact Nat.succ_le_succ (hlongest j hj)
    | none =>
      rw [hrest] at ih
      cases hafter : afterFile? rest with
      | some found =>
        refine ⟨reads_singleton_iff.mpr hafter, fun other hother => ?_⟩
        rcases hother.cons_cases with ⟨hfile, -⟩ | ⟨j, hj, rfl⟩
        · exact Nat.le_of_eq (congrArg List.length hfile)
        · exact absurd hj (ih j)
      | none =>
        intro h hr
        rcases hr.cons_cases with ⟨-, hsome⟩ | ⟨j, hj, -⟩
        · rw [hafter] at hsome
          cases hsome
        · exact ih j hj

theorem Header.Reads.eq_of_length_eq {k : Header} (hr : h.Reads line) (hk : k.Reads line)
    (hlength : h.file.length = k.file.length) : h = k := by
  have hspelled := hr.spelled.symm.trans hk.spelled
  obtain ⟨hfile, hrest⟩ := List.append_inj hspelled hlength
  have hafter := afterFile?_spelled hr.digits hr.isDigit hr.message
  rw [hrest, afterFile?_spelled hk.digits hk.isDigit hk.message] at hafter
  rw [Option.some.injEq, Prod.mk.injEq] at hafter
  obtain ⟨hdigits, hmessage⟩ := hafter
  cases h
  cases k
  simp only [Header.mk.injEq]
  exact ⟨hfile, hdigits.symm, hmessage.symm⟩

theorem header?_eq_some_iff : header? line = some h ↔ h.IsLongest line := by
  have hspec := header?_spec line
  constructor
  · intro hh
    rwa [hh] at hspec
  · rintro ⟨hr, hlongest⟩
    cases hk : header? line with
    | none =>
      rw [hk] at hspec
      exact absurd hr (hspec h)
    | some k =>
      rw [hk] at hspec
      obtain ⟨hkr, hklongest⟩ := hspec
      rw [hkr.eq_of_length_eq hr (Nat.le_antisymm (hlongest k hkr) (hklongest h hr))]

theorem isHeader_iff : isHeader line ↔ ∃ h : Header, h.Reads line := by
  have hspec := header?_spec line
  unfold isHeader
  cases hh : header? line with
  | some h =>
    rw [hh] at hspec
    exact ⟨fun _ => ⟨h, hspec.1⟩, fun _ => rfl⟩
  | none =>
    rw [hh] at hspec
    constructor
    · intro hf
      cases hf
    · rintro ⟨h, hr⟩
      exact absurd hr (hspec h)

structure Denotes (digits : List Char) (n : Nat) : Prop where
  ascii : ∀ c ∈ digits, c.isDigit
  value : n = Nat.ofDigitChars 10 digits 0
  bound : n < limit64

theorem asciiNumber?_eq_some_iff {n : Nat} (hne : digits ≠ []) :
    asciiNumber? digits = some n ↔ Denotes digits n := by
  have hall : (digits.all (fun c => '0' ≤ c && c ≤ '9') && !digits.isEmpty) = true ↔
      ∀ c ∈ digits, c.isDigit := by
    simp [hne, Char.isDigit, Char.le_def]
  unfold asciiNumber?
  by_cases hascii : ∀ c ∈ digits, c.isDigit
  · rw [if_pos (hall.mpr hascii)]
    have hvalue : digits.foldl (fun n c => 10 * n + (c.toNat - 48)) 0 =
        Nat.ofDigitChars 10 digits 0 := rfl
    rw [hvalue]
    by_cases hbound : Nat.ofDigitChars 10 digits 0 < limit64
    · simp only [if_pos hbound, Option.some.injEq]
      constructor
      · rintro rfl
        exact ⟨hascii, rfl, hbound⟩
      · intro hn
        exact hn.value.symm
    · simp only [if_neg hbound]
      constructor
      · intro hn
        cases hn
      · intro hn
        exact absurd (hn.value ▸ hn.bound) hbound
  · rw [if_neg fun hf => hascii (hall.mp hf)]
    constructor
    · intro hn
      cases hn
    · intro hn
      exact absurd hn.ascii hascii

theorem denotes_toString {n : Nat} (hn : n < limit64) : Denotes (toString n).toList n := by
  have hdigits : (toString n).toList = Nat.toDigits 10 n := Nat.toList_repr
  rw [hdigits]
  refine ⟨?_, Nat.ofDigitChars_ten_toDigits.symm, hn⟩
  intro c hc
  exact Nat.isDigit_of_mem_toDigits (by decide) (Nat.le_refl _) hc

theorem isDigit_of_ascii (hc : c.isDigit) : Text.isDigit c := by
  simp only [Char.isDigit, Bool.and_eq_true, decide_eq_true_eq] at hc
  refine List.any_eq_true.mpr ⟨(0x30, 0x39), List.mem_cons_self, ?_⟩
  simp only [Bool.and_eq_true, decide_eq_true_eq]
  exact ⟨hc.1, hc.2⟩

theorem append_cons_inj_of_notMem {a : Char} {t u v w : List Char} (ha : a ∉ t)
    (heq : t ++ a :: u = v ++ a :: w) : ∃ x, v = t ++ x ∧ a :: u = x ++ a :: w := by
  induction t generalizing v with
  | nil => exact ⟨v, rfl, heq⟩
  | cons b t ih =>
    rw [List.mem_cons, not_or] at ha
    obtain ⟨hab, ht⟩ := ha
    cases v with
    | nil =>
      rw [List.cons_append, List.nil_append, List.cons.injEq] at heq
      exact absurd heq.1.symm hab
    | cons d v =>
      rw [List.cons_append, List.cons_append, List.cons.injEq] at heq
      obtain ⟨rfl, hrest⟩ := heq
      obtain ⟨x, rfl, hx⟩ := ih ht hrest
      exact ⟨x, rfl, hx⟩

/-- A later marker in a header can begin only in the blank before the message: the two other
blanks of the marker that is there are not followed by a parenthesis. -/
theorem marker_in_message {later after : List Char} (hdigits : ∀ c ∈ digits, isDigit c)
    (hne : later ≠ [])
    (heq : opening ++ (digits ++ (closing ++ message)) = later ++ (opening ++ after)) :
    ∃ inner, ' ' :: message = inner ++ (opening ++ after) := by
  obtain ⟨b, later, rfl⟩ := List.exists_cons_of_ne_nil hne
  rw [List.cons_append, show opening = ' ' :: (['(', 'l', 'i', 'n', 'e'] ++ [' ']) from rfl,
    List.cons_append, List.cons.injEq, List.append_assoc, List.singleton_append] at heq
  obtain ⟨x, -, hx⟩ := append_cons_inj_of_notMem (by decide) heq.2
  cases x with
  | nil =>
    rw [List.nil_append, List.cons.injEq] at hx
    cases digits with
    | nil => cases hx.2
    | cons d digits =>
      have hparen : d = '(' := (List.cons.inj hx.2).1
      have hdigit := hdigits d List.mem_cons_self
      rw [hparen] at hdigit
      exact absurd hdigit (by decide)
  | cons a x =>
    rw [List.cons_append, List.cons.injEq] at hx
    have hclosing : (digits ++ [')', ':']) ++ ' ' :: message = digits ++ (closing ++ message) := by
      rw [List.append_assoc]
      rfl
    have hblank : ' ' ∉ digits ++ [')', ':'] := by
      intro hmem
      rcases List.mem_append.mp hmem with hmem | hmem
      · exact absurd (hdigits ' ' hmem) (by decide)
      · exact absurd hmem (by decide)
    obtain ⟨y, -, hy⟩ := append_cons_inj_of_notMem hblank (hclosing.trans hx.2)
    exact ⟨y, hy⟩

/-- A marker that leaves something behind it. -/
def HoldsMarker (s : List Char) : Prop :=
  ∃ before digits after, s = before ++ (opening ++ (digits ++ (closing ++ after))) ∧
    digits ≠ [] ∧ (∀ c ∈ digits, isDigit c) ∧ after ≠ []

theorem holdsMarker_iff (c : Char) : HoldsMarker s ↔ isHeader (c :: s) := by
  rw [isHeader_iff]
  constructor
  · rintro ⟨before, digits, after, rfl, hne, hdigits, hafter⟩
    exact ⟨⟨c :: before, digits, after⟩, rfl, List.cons_ne_nil _ _, hne, hdigits, hafter⟩
  · rintro ⟨⟨file, digits, message⟩, hr⟩
    obtain ⟨b, before, rfl⟩ := List.exists_cons_of_ne_nil hr.file
    have hs := (List.cons.inj hr.spelled).2
    exact ⟨before, digits, message, hs, hr.digits, hr.isDigit, hr.message⟩

instance (s : List Char) : Decidable (HoldsMarker s) :=
  decidable_of_iff _ (holdsMarker_iff ' ').symm

theorem Header.Reads.isLongest (hr : h.Reads line) (hmessage : ¬ HoldsMarker (' ' :: h.message)) :
    h.IsLongest line := by
  refine ⟨hr, fun other hother => Nat.le_of_not_lt fun hlonger => ?_⟩
  have heq := hr.spelled.symm.trans hother.spelled
  obtain ⟨later, hfile⟩ : h.file <+: other.file :=
    List.prefix_of_prefix_length_le ⟨_, hr.spelled.symm⟩ ⟨_, hother.spelled.symm⟩
      (Nat.le_of_lt hlonger)
  rw [← hfile, List.append_assoc, List.append_cancel_left_eq] at heq
  have hne : later ≠ [] := by
    rintro rfl
    rw [← hfile, List.append_nil] at hlonger
    exact Nat.lt_irrefl _ hlonger
  obtain ⟨inner, hinner⟩ := marker_in_message hr.isDigit hne heq
  exact hmessage ⟨inner, _, _, hinner, hother.digits, hother.isDigit, hother.message⟩

end ScriptCheck.Listing

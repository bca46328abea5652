import Mathlib.Data.List.Basic
import ScriptCheck.Proofs.Text.Lines

/-! The UTF-16 form of a text. A character is one unit or a pair of surrogates, and a cut behind
whole characters goes through no pair. -/

namespace ScriptCheck.Text

def charUnits (c : Char) : List UInt16 :=
  if c.toNat < 0x10000 then [.ofNat c.toNat]
  else [.ofNat (0xd800 + (c.toNat - 0x10000) / 0x400), .ofNat (0xdc00 + (c.toNat - 0x10000) % 0x400)]

def utf16 (s : List Char) : List UInt16 := s.flatMap charUnits

example : utf16 "x𝄞".toList = [0x78, 0xd834, 0xdd1e] := by decide

def IsHighSurrogate (u : UInt16) : Prop := 0xd800 ≤ u.toNat ∧ u.toNat < 0xdc00

def IsLowSurrogate (u : UInt16) : Prop := 0xdc00 ≤ u.toNat ∧ u.toNat < 0xe000

/-- A cut behind `n` units has the surrogates of one pair on its two sides. -/
def SplitsPair (form : List UInt16) (n : Nat) : Prop :=
  ∃ front high low back, form = front ++ high :: low :: back ∧ n = front.length + 1 ∧
    IsHighSurrogate high ∧ IsLowSurrogate low

theorem length_charUnits (c : Char) : (charUnits c).length = unitWidth c := by
  unfold charUnits unitWidth
  split <;> rfl

theorem utf16_append (s t : List Char) : utf16 (s ++ t) = utf16 s ++ utf16 t :=
  List.flatMap_append

theorem length_utf16 (s : List Char) : (utf16 s).length = units s := by
  induction s with
  | nil => rfl
  | cons c s ih =>
    have hcons : utf16 (c :: s) = charUnits c ++ utf16 s := List.flatMap_cons
    rw [hcons, List.length_append, length_charUnits, ih]
    rfl

theorem utf16_take_append_drop (s : List Char) (n : Nat) :
    utf16 (s.take n) ++ utf16 (s.drop n) = utf16 s := by
  rw [← utf16_append, List.take_append_drop]

theorem take_utf16 (s : List Char) (n : Nat) :
    (utf16 s).take (units (s.take n)) = utf16 (s.take n) := by
  rw [← utf16_take_append_drop s n, List.take_left' (length_utf16 _)]

theorem drop_utf16 (s : List Char) (n : Nat) :
    (utf16 s).drop (units (s.take n)) = utf16 (s.drop n) := by
  rw [← utf16_take_append_drop s n, List.drop_left' (length_utf16 _)]

theorem not_isHighSurrogate_getLast {c : Char} {u : UInt16}
    (hu : (charUnits c).getLast? = some u) : ¬ IsHighSurrogate u := by
  have hvalid : c.toNat < 0xd800 ∨ 0xdfff < c.toNat ∧ c.toNat < 0x110000 := c.valid
  unfold charUnits at hu
  unfold IsHighSurrogate
  split at hu
  · rename_i hbasic
    have hnumber : (UInt16.ofNat c.toNat).toNat = c.toNat := UInt16.toNat_ofNat_of_lt' hbasic
    obtain rfl : UInt16.ofNat c.toNat = u := by simpa using hu
    omega
  · have hnumber : (UInt16.ofNat (0xdc00 + (c.toNat - 0x10000) % 0x400)).toNat =
        0xdc00 + (c.toNat - 0x10000) % 0x400 := UInt16.toNat_ofNat_of_lt' (by
      have hmod := Nat.mod_lt (c.toNat - 0x10000) (show 0 < 0x400 by decide)
      show _ < 65536
      omega)
    obtain rfl : UInt16.ofNat (0xdc00 + (c.toNat - 0x10000) % 0x400) = u := by simpa using hu
    omega

theorem not_splitsPair (s : List Char) (n : Nat) :
    ¬ SplitsPair (utf16 s) (units (s.take n)) := by
  rintro ⟨front, high, low, back, hform, hcut, hhigh, -⟩
  -- What stands before the cut is the form of whole characters, and ends with the high surrogate.
  have hfront : utf16 (s.take n) = front ++ [high] := by
    rw [← take_utf16, hform, hcut, List.take_length_add_append]
    rfl
  rcases List.eq_nil_or_concat (s.take n) with hnil | ⟨before, c, hchars⟩
  · rw [hnil] at hfront
    simp [utf16] at hfront
  · have hform : utf16 [c] = charUnits c := List.flatMap_singleton _ _
    rw [hchars, List.concat_eq_append, utf16_append, hform] at hfront
    have hne : charUnits c ≠ [] := by
      unfold charUnits
      split <;> exact List.cons_ne_nil _ _
    have hlast := congrArg List.getLast? hfront
    rw [List.getLast?_append_of_ne_nil _ hne, List.getLast?_concat] at hlast
    exact not_isHighSurrogate_getLast hlast hhigh

end ScriptCheck.Text

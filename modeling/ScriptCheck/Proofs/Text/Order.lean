import Mathlib.Data.List.Lex
import Mathlib.Data.String.Basic
import Mathlib.Tactic.SplitIfs

/-! The order of texts. Texts are in the order of their characters, which is that of the bytes in
their UTF-8 form. A list of texts in order stays so when one more is put in its place. -/

namespace ScriptCheck.Text

def bytes (s : String) : List UInt8 := s.toUTF8.data.toList

theorem bytes_eq (s : String) : bytes s = s.toList.flatMap String.utf8EncodeChar := by
  have hencode : s.toUTF8 = s.toList.utf8Encode := String.utf8Encode_toList.symm
  unfold bytes
  rw [hencode, List.utf8Encode, List.data_toByteArray]

theorem ofNat_lt_ofNat {a b : Nat} (hb : b < 256) (hab : a < b) :
    UInt8.ofNat a < UInt8.ofNat b := by
  rw [UInt8.lt_iff_toNat_lt, UInt8.toNat_ofNat_of_lt' hb,
    UInt8.toNat_ofNat_of_lt' (Nat.lt_trans hab hb)]
  exact hab

theorem ofNat_cons_lt {a b : Nat} {x y : List UInt8} (hb : b < 256) (hab : a ≤ b)
    (hrest : a = b → x < y) : UInt8.ofNat a :: x < UInt8.ofNat b :: y := by
  rcases Nat.lt_or_eq_of_le hab with hlt | heq
  · exact List.Lex.rel (ofNat_lt_ofNat hb hlt)
  · rw [heq]
    exact List.Lex.cons (hrest heq)

theorem encodeChar_append_lt {c d : Char} (hcd : c < d) (x y : List UInt8) :
    String.utf8EncodeChar c ++ x < String.utf8EncodeChar d ++ y := by
  have hlt : c.val.toNat < d.val.toNat := UInt32.lt_iff_toNat_lt.mp hcd
  have hvalid : d.val.toNat < 0x110000 := by
    have hd := d.valid
    change d.toNat < 0xd800 ∨ 0xdfff < d.toNat ∧ d.toNat < 0x110000 at hd
    change d.toNat < 0x110000
    omega
  generalize hv : c.val.toNat = v at *
  generalize hw : d.val.toNat = w at *
  unfold String.utf8EncodeChar
  simp only [hv, hw]
  have hfirst {a b : Nat} (hb : b < 256) (hab : a < b) (x y : List UInt8) :
      UInt8.ofNat a :: x < UInt8.ofNat b :: y :=
    ofNat_cons_lt hb hab.le fun heq => absurd heq hab.ne
  split_ifs
  all_goals try first | omega | exact hfirst (by omega) (by omega) _ _
  · refine ofNat_cons_lt (by omega) (by omega) fun _ => ?_
    exact hfirst (by omega) (by omega) _ _
  · refine ofNat_cons_lt (by omega) (by omega) fun _ => ?_
    refine ofNat_cons_lt (by omega) (by omega) fun _ => ?_
    exact hfirst (by omega) (by omega) _ _
  · refine ofNat_cons_lt (by omega) (by omega) fun _ => ?_
    refine ofNat_cons_lt (by omega) (by omega) fun _ => ?_
    refine ofNat_cons_lt (by omega) (by omega) fun _ => ?_
    exact hfirst (by omega) (by omega) _ _

theorem flatMap_encodeChar_lt {s t : List Char} (hst : s < t) :
    s.flatMap String.utf8EncodeChar < t.flatMap String.utf8EncodeChar := by
  induction hst with
  | @nil c s =>
    have hne : String.utf8EncodeChar c ≠ [] := String.utf8EncodeChar_ne_nil
    obtain ⟨b, form, hform⟩ := List.exists_cons_of_ne_nil hne
    rw [List.flatMap_cons, hform]
    exact List.Lex.nil
  | rel hcd => exact encodeChar_append_lt hcd _ _
  | cons _ ih => exact List.Lex.append_left _ ih _

theorem bytes_lt_of_lt {s t : String} (hst : s < t) : bytes s < bytes t := by
  rw [bytes_eq, bytes_eq]
  exact flatMap_encodeChar_lt (String.lt_iff.mp hst)

theorem bytes_lt_of_le {s t : String} (hle : s ≤ t) (hne : s ≠ t) : bytes s < bytes t := by
  refine bytes_lt_of_lt ?_
  by_contra hnot
  have hge : t ≤ s := hnot
  exact hne (String.le_antisymm hle hge)

def insertText (t : String) : List String → List String
  | [] => [t]
  | s :: rest =>
    if t < s then t :: s :: rest
    else if t = s then s :: rest
    else s :: insertText t rest

theorem mem_insertText {s t : String} {texts : List String} :
    s ∈ insertText t texts ↔ s = t ∨ s ∈ texts := by
  induction texts with
  | nil => simp [insertText]
  | cons u rest ih =>
    unfold insertText
    split_ifs with hlt heq
    · simp
    · simp [heq]
    · rw [List.mem_cons, List.mem_cons, ih, or_left_comm]

theorem pairwise_insertText {t : String} {texts : List String} (hsorted : texts.Pairwise (· < ·)) :
    (insertText t texts).Pairwise (· < ·) := by
  induction texts with
  | nil => exact List.pairwise_singleton _ _
  | cons u rest ih =>
    obtain ⟨hfirst, hrest⟩ := List.pairwise_cons.mp hsorted
    unfold insertText
    split_ifs with hlt heq
    · refine List.pairwise_cons.mpr ⟨fun s hs => ?_, hsorted⟩
      rcases List.mem_cons.mp hs with rfl | hs
      · exact hlt
      · exact String.lt_trans hlt (hfirst s hs)
    · exact hsorted
    · have hgt : u < t := ((lt_trichotomy t u).resolve_left hlt).resolve_left heq
      refine List.pairwise_cons.mpr ⟨fun s hs => ?_, ih hrest⟩
      rcases mem_insertText.mp hs with rfl | hs
      · exact hgt
      · exact hfirst s hs

theorem notMem_of_lt {t u : String} {texts : List String}
    (hsorted : (u :: texts).Pairwise (· < ·)) (hlt : t < u) : t ∉ u :: texts := by
  intro hmem
  rcases List.mem_cons.mp hmem with rfl | hmem
  · exact String.lt_irrefl _ hlt
  · exact String.lt_irrefl _ (String.lt_trans hlt (List.rel_of_pairwise_cons hsorted hmem))

theorem nodup_of_pairwise_lt {texts : List String} (hsorted : texts.Pairwise (· < ·)) :
    texts.Nodup := by
  refine hsorted.imp fun {t u} hlt => ?_
  rintro rfl
  exact String.lt_irrefl _ hlt

end ScriptCheck.Text

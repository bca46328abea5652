import Mathlib.Data.List.Basic
import ScriptCheck.Json.Reader
import ScriptCheck.Json.Writer

/-! JSON text is read back. Every string comes back whatever characters it has, integers of 64 bits
come back, and so does every value made of these, but for the order of entries in its objects. -/

namespace ScriptCheck.Json

variable {c : Char} {s rest : List Char} {n : Nat} {v : Json} {fuel : Nat}

def shortEscaped : List Char := ['"', '\\', '\x08', '\x0c', '\n', '\r', '\t']

theorem escapeChar_of_control (hshort : c ∉ shortEscaped) (hcontrol : c.toNat < 0x20) :
    escapeChar c =
      ['\\', 'u', '0', '0', hexDigit (c.toNat / 16), hexDigit (c.toNat % 16)] := by
  simp only [shortEscaped, List.mem_cons, List.not_mem_nil, or_false, not_or] at hshort
  simp [escapeChar, hshort, hcontrol]

theorem escapeChar_of_plain (hshort : c ∉ shortEscaped) (hplain : ¬ c.toNat < 0x20) :
    escapeChar c = [c] := by
  simp only [shortEscaped, List.mem_cons, List.not_mem_nil, or_false, not_or] at hshort
  simp [escapeChar, hshort, hplain]

def Piece.of (c : Char) : Piece :=
  if c.toNat < 0x20 ∧ c ∉ shortEscaped then .unit c.toNat else .char c

theorem hexUnit?_hexDigit : ∀ n < 0x20,
    hexUnit? '0' '0' (hexDigit (n / 16)) (hexDigit (n % 16)) = some n := by
  decide

theorem readPieces_plain (gathered : List Piece) (hquote : c ≠ '"') (hback : c ≠ '\\')
    (hplain : ¬ c.toNat < 0x20) (rest : List Char) :
    readPieces gathered (c :: rest) = readPieces (.char c :: gathered) rest := by
  rw [readPieces.eq_def]
  split
  · rename_i hcons
    cases hcons
  · rename_i hcons
    exact absurd (List.cons.inj hcons).1 hquote
  · rename_i hcons
    exact absurd (List.cons.inj hcons).1 hback
  · rename_i hcons
    exact absurd (List.cons.inj hcons).1 hback
  · rename_i hcons
    obtain ⟨rfl, rfl⟩ := List.cons.inj hcons
    exact if_neg hplain

theorem readPieces_escapeChar (gathered : List Piece) (c : Char) (rest : List Char) :
    readPieces gathered (escapeChar c ++ rest) = readPieces (Piece.of c :: gathered) rest := by
  by_cases hshort : c ∈ shortEscaped
  · simp only [shortEscaped, List.mem_cons, List.not_mem_nil, or_false] at hshort
    rcases hshort with rfl | rfl | rfl | rfl | rfl | rfl | rfl <;> rfl
  · by_cases hcontrol : c.toNat < 0x20
    · have hpiece : Piece.of c = .unit c.toNat := if_pos ⟨hcontrol, hshort⟩
      rw [escapeChar_of_control hshort hcontrol, hpiece]
      simp only [List.cons_append, List.nil_append, readPieces, hexUnit?_hexDigit _ hcontrol]
    · have hpiece : Piece.of c = .char c := if_neg fun h => hcontrol h.1
      have hquote : c ≠ '"' := fun heq => hshort (heq ▸ by decide)
      have hback : c ≠ '\\' := fun heq => hshort (heq ▸ by decide)
      rw [escapeChar_of_plain hshort hcontrol, hpiece, List.singleton_append]
      exact readPieces_plain gathered hquote hback hcontrol rest

theorem readPieces_escaped (gathered : List Piece) (s rest : List Char) :
    readPieces gathered (s.flatMap escapeChar ++ '"' :: rest) =
      some (gathered.reverse ++ s.map Piece.of, rest) := by
  induction s generalizing gathered with
  | nil => simp [readPieces]
  | cons c s ih =>
    rw [List.flatMap_cons, List.append_assoc, readPieces_escapeChar, ih]
    simp

theorem joinPieces_unit (gathered : List Char) (hn : n < 0x20) (rest : List Piece) :
    joinPieces gathered (.unit n :: rest) = joinPieces (Char.ofNat n :: gathered) rest := by
  have hhigh : ¬ (0xd800 ≤ n ∧ n < 0xdc00) := by omega
  have hlow : ¬ (0xdc00 ≤ n ∧ n < 0xe000) := by omega
  have hpair : ¬ (0xd800 ≤ n ∧ n < 0xe000) := by omega
  cases rest with
  | nil => exact if_neg hpair
  | cons piece rest =>
    cases piece with
    | char c => exact if_neg hpair
    | unit m => exact (if_neg hhigh).trans (if_neg hlow)

theorem joinPieces_map (gathered s : List Char) :
    joinPieces gathered (s.map Piece.of) = some (gathered.reverse ++ s) := by
  induction s generalizing gathered with
  | nil => simp [joinPieces]
  | cons c s ih =>
    have hstep : joinPieces gathered (Piece.of c :: s.map Piece.of) =
        joinPieces (c :: gathered) (s.map Piece.of) := by
      unfold Piece.of
      split
      · rename_i hcontrol
        rw [joinPieces_unit _ hcontrol.1, Char.ofNat_toNat]
      · rw [joinPieces]
    rw [List.map_cons, hstep, ih]
    simp

theorem readString_escaped (s : String) (rest : List Char) :
    readString (s.toList.flatMap escapeChar ++ '"' :: rest) = some (s, rest) := by
  unfold readString
  rw [readPieces_escaped, Option.bind_eq_bind, Option.bind_some]
  simp [joinPieces_map]

def Follows (rest : List Char) : Prop := ∀ c ∈ rest.head?, c ∈ [',', ']', '\x7d']

theorem follows_nil : Follows [] := nofun

theorem follows_cons (hc : c ∈ [',', ']', '\x7d']) (rest : List Char) : Follows (c :: rest) := by
  rintro d ⟨⟩
  exact hc

theorem isDecimal_of_mem_toDigits (hc : c ∈ Nat.toDigits 10 n) : isDecimal c := by
  have hdigit := Nat.isDigit_of_mem_toDigits (by decide) (Nat.le_refl 10) hc
  simpa [isDecimal, Char.isDigit, Char.le_def] using hdigit

theorem exists_toDigits (n : Nat) : ∃ d digits, Nat.toDigits 10 n = d :: digits ∧ isDecimal d := by
  obtain ⟨d, digits, hdigits⟩ :=
    List.exists_cons_of_ne_nil (Nat.toDigits_ne_nil (b := 10) (n := n))
  exact ⟨d, digits, hdigits, isDecimal_of_mem_toDigits (hdigits ▸ List.mem_cons_self)⟩

theorem not_isSpace_of_isDecimal (hc : isDecimal c) : ¬ isSpace c := by
  intro hblank
  simp only [isSpace, Bool.or_eq_true, decide_eq_true_eq] at hblank
  rcases hblank with ((rfl | rfl) | rfl) | rfl <;> exact absurd hc (by decide)

theorem head?_toDigits (hn : n ≠ 0) : (Nat.toDigits 10 n).head? ≠ some '0' := by
  induction n using Nat.strongRecOn with
  | ind n ih =>
    by_cases hsmall : n < 10
    · have hdigit : ∀ n < 10, n ≠ 0 → [n.digitChar].head? ≠ some '0' := by decide
      rw [Nat.toDigits_of_lt_base hsmall]
      exact hdigit n hsmall hn
    · have hne : Nat.toDigits 10 (n / 10) ≠ [] := Nat.toDigits_ne_nil
      rw [Nat.toDigits_of_base_le (by decide) (Nat.le_of_not_lt hsmall),
        List.head?_append_of_ne_nil _ hne]
      exact ih (n / 10) (by omega) (by omega)

namespace Follows

theorem cases (hrest : Follows rest) :
    rest = [] ∨ ∃ more, rest = ',' :: more ∨ rest = ']' :: more ∨ rest = '\x7d' :: more := by
  cases rest with
  | nil => exact .inl rfl
  | cons c more =>
    have hc := hrest c rfl
    simp only [List.mem_cons, List.not_mem_nil, or_false] at hc
    exact .inr ⟨more, by rcases hc with rfl | rfl | rfl <;> simp⟩

theorem takeWhile_digits (hrest : Follows rest) (n : Nat) :
    (Nat.toDigits 10 n ++ rest).takeWhile isDecimal = Nat.toDigits 10 n := by
  rw [List.takeWhile_append_of_pos fun c hc => isDecimal_of_mem_toDigits hc]
  rcases hrest.cases with rfl | ⟨more, rfl | rfl | rfl⟩ <;> exact List.append_nil _

theorem dropWhile_digits (hrest : Follows rest) (n : Nat) :
    (Nat.toDigits 10 n ++ rest).dropWhile isDecimal = rest := by
  rw [List.dropWhile_append_of_pos fun c hc => isDecimal_of_mem_toDigits hc]
  rcases hrest.cases with rfl | ⟨more, rfl | rfl | rfl⟩ <;> rfl

theorem readFraction_eq (hrest : Follows rest) : readFraction rest = some ([], rest) := by
  rcases hrest.cases with rfl | ⟨more, rfl | rfl | rfl⟩ <;> rfl

theorem readExponent_eq (hrest : Follows rest) : readExponent rest = some (none, rest) := by
  rcases hrest.cases with rfl | ⟨more, rfl | rfl | rfl⟩ <;> rfl

end Follows

theorem readNumber_toDigits {negative : Bool} (hv : integer? negative n = some v)
    (hrest : Follows rest) :
    readNumber negative (Nat.toDigits 10 n ++ rest) = some (v, rest) := by
  have hdigits : ¬ ((Nat.toDigits 10 n).isEmpty ∨
      ((Nat.toDigits 10 n).head? = some '0' ∧ 1 < (Nat.toDigits 10 n).length)) := by
    rintro (hempty | ⟨hzero, hlength⟩)
    · exact Nat.toDigits_ne_nil (List.isEmpty_iff.mp hempty)
    · by_cases hn : n = 0
      · rw [hn, Nat.toDigits_zero] at hlength
        exact absurd hlength (by decide)
      · exact head?_toDigits hn hzero
  have hvalue : decimalValue (Nat.toDigits 10 n) = n := Nat.ofDigitChars_ten_toDigits
  have hnumber : number? negative (Nat.toDigits 10 n) [] none = some v := by
    unfold number?
    simp only [hvalue, hv]
  unfold readNumber
  simp only [hrest.takeWhile_digits, hrest.dropWhile_digits, if_neg hdigits, hrest.readFraction_eq,
    hrest.readExponent_eq, hnumber, Option.bind_eq_bind, Option.bind_some, Option.map_some]

/-- Made of integers of 64 bits and anything else but reals. -/
inductive Exact : Json → Prop
  | null : Exact .null
  | bool (value : Bool) : Exact (.bool value)
  | int {value : Int} (hlow : -(limit63 : Int) ≤ value) (hhigh : value < limit64) :
    Exact (.int value)
  | str (value : String) : Exact (.str value)
  | arr {items : List Json} (hitems : ∀ v ∈ items, Exact v) : Exact (.arr items)
  | obj {entries : List (String × Json)} (hentries : ∀ e ∈ entries, Exact e.2) :
    Exact (.obj entries)

theorem exact_nat (hn : n < limit64) : Exact (.nat n) :=
  .int (by omega) (Int.ofNat_lt.mpr hn)

mutual
def arranged : Json → Json
  | .arr items => .arr (arrangedItems items)
  | .obj entries => object (arrangedEntries entries)
  | .null => .null
  | .bool b => .bool b
  | .int n => .int n
  | .real x => .real x
  | .str s => .str s

def arrangedItems : List Json → List Json
  | [] => []
  | v :: rest => arranged v :: arrangedItems rest

def arrangedEntries : List (String × Json) → List (String × Json)
  | [] => []
  | (k, v) :: rest => (k, arranged v) :: arrangedEntries rest
end

/-- Whatever may follow it, the text of a value is taken for the value. -/
def ReadsBack (v : Json) : Prop :=
  ∀ fuel rest, (writeValue v).length ≤ fuel → Follows rest →
    readValue fuel (writeValue v ++ rest) = some (v.arranged, rest)

theorem writeInt_ofNat (n : Nat) : writeInt (.ofNat n) = Nat.toDigits 10 n := Nat.toList_repr

theorem writeInt_negSucc (n : Nat) :
    writeInt (.negSucc n) = '-' :: Nat.toDigits 10 (n + 1) := by
  have hwrite : writeInt (.negSucc n) = ("-" ++ toString (n + 1)).toList := rfl
  rw [hwrite, String.toList_append]
  exact congrArg ('-' :: ·) Nat.toList_repr

theorem readValue_digit (hc : isDecimal c) (s : List Char) :
    readValue (fuel + 1) (c :: s) = readNumber false (c :: s) := by
  have hspace : skipSpace (c :: s) = c :: s :=
    List.dropWhile_cons_of_neg (not_isSpace_of_isDecimal hc)
  have hother {d : Char} {t : List Char} (heq : c :: s = d :: t) (hd : ¬ isDecimal d) : False :=
    hd ((List.cons.inj heq).1 ▸ hc)
  rw [readValue, hspace]
  split
  all_goals first | rfl | exact (hother (by assumption) (by decide)).elim

theorem readsBack_int {value : Int} (hlow : -(limit63 : Int) ≤ value) (hhigh : value < limit64) :
    ReadsBack (.int value) := by
  rintro fuel rest hfuel hrest
  cases value with
  | ofNat n =>
    have hn : integer? false n = some (.int n) := if_pos (Int.ofNat_lt.mp hhigh)
    obtain ⟨d, digits, hdigits, hd⟩ := exists_toDigits n
    rw [writeValue, writeInt_ofNat, hdigits] at hfuel
    cases fuel with
    | zero => cases hfuel
    | succ fuel =>
      rw [writeValue, writeInt_ofNat]
      have hread := readNumber_toDigits hn hrest
      rw [hdigits] at hread ⊢
      exact (readValue_digit hd _).trans hread
  | negSucc n =>
    have hbound : 0 < n + 1 ∧ n + 1 ≤ limit63 := by omega
    have hn : integer? true (n + 1) = some (.int (.negSucc n)) := if_pos hbound
    rw [writeValue, writeInt_negSucc] at hfuel ⊢
    cases fuel with
    | zero => cases hfuel
    | succ fuel => exact readNumber_toDigits hn hrest

theorem readsBack_str (value : String) : ReadsBack (.str value) := by
  rintro (_ | fuel) rest hfuel -
  · cases hfuel
  · have hread := readString_escaped value rest
    have htext : writeValue (.str value) ++ rest =
        '"' :: (value.toList.flatMap escapeChar ++ '"' :: rest) := by
      simp [writeValue, writeString]
    rw [htext]
    show (readString _).map _ = _
    rw [hread]
    rfl

theorem exists_writeValue (hv : v.Exact) :
    ∃ c t, writeValue v = c :: t ∧ ¬ isSpace c ∧ c ≠ ']' := by
  cases hv with
  | null => exact ⟨'n', _, rfl, by decide, by decide⟩
  | bool value => cases value <;> exact ⟨_, _, rfl, by decide, by decide⟩
  | @int value hlow hhigh =>
    cases value with
    | ofNat n =>
      obtain ⟨d, digits, hdigits, hd⟩ := exists_toDigits n
      refine ⟨d, digits, (writeInt_ofNat n).trans hdigits, not_isSpace_of_isDecimal hd, ?_⟩
      rintro rfl
      exact absurd hd (by decide)
    | negSucc n => exact ⟨'-', _, writeInt_negSucc n, by decide, by decide⟩
  | str value => exact ⟨'"', _, rfl, by decide, by decide⟩
  | arr hitems => exact ⟨'[', _, rfl, by decide, by decide⟩
  | obj hentries => exact ⟨'\x7b', _, rfl, by decide, by decide⟩

theorem readItems_separated {items : List Json} (hne : items ≠ [])
    (hitems : ∀ v ∈ items, ReadsBack v) (rest : List Char)
    (hfuel : (separated [','] (writeItems items)).length < fuel) :
    readItems fuel (separated [','] (writeItems items) ++ ']' :: rest) =
      some (arrangedItems items, rest) := by
  induction items generalizing fuel with
  | nil => exact absurd rfl hne
  | cons v items ih =>
    cases fuel with
    | zero => cases hfuel
    | succ fuel =>
      obtain ⟨hv, hrest⟩ := List.forall_mem_cons.mp hitems
      cases items with
      | nil =>
        have hread := hv fuel (']' :: rest) (Nat.le_of_lt_succ hfuel) (follows_cons (by simp) rest)
        show readItems (fuel + 1) (writeValue v ++ ']' :: rest) = _
        rw [readItems, hread]
        rfl
      | cons w items =>
        have htext : separated [','] (writeItems (v :: w :: items)) =
            writeValue v ++ ',' :: separated [','] (writeItems (w :: items)) := by
          simp [writeItems, separated]
        rw [htext, List.length_append, List.length_cons] at hfuel
        have hread := hv fuel (',' :: (separated [','] (writeItems (w :: items)) ++ ']' :: rest))
          (by omega) (follows_cons (by simp) _)
        have hmore := @ih fuel (List.cons_ne_nil _ _) hrest (by omega)
        rw [htext, List.append_assoc, List.cons_append, readItems, hread]
        show (readItems fuel _).map _ = _
        rw [hmore]
        rfl

def writeEntry (k : String) (v : Json) : List Char := writeString k ++ ':' :: writeValue v

theorem readEntries_writeEntry {v w : Json} (k : String)
    (hv : ∀ tail, Follows tail → readValue fuel (writeValue v ++ tail) = some (w, tail)) :
    (∀ rest, readEntries (fuel + 1) (writeEntry k v ++ '\x7d' :: rest) = some ([(k, w)], rest)) ∧
    ∀ rest, readEntries (fuel + 1) (writeEntry k v ++ ',' :: rest) =
      (readEntries fuel rest).map fun (entries, rest) => ((k, w) :: entries, rest) := by
  have htext (tail : List Char) : writeEntry k v ++ tail =
      '"' :: (k.toList.flatMap escapeChar ++ '"' :: ':' :: (writeValue v ++ tail)) := by
    simp [writeEntry, writeString]
  have hquote (s : List Char) : skipSpace ('"' :: s) = '"' :: s := rfl
  have hcolon (s : List Char) : skipSpace (':' :: s) = ':' :: s := rfl
  constructor <;> intro rest
  · rw [htext, readEntries, hquote]
    simp only [readString_escaped, hcolon, hv ('\x7d' :: rest) (follows_cons (by simp) rest)]
    rfl
  · rw [htext, readEntries, hquote]
    simp only [readString_escaped, hcolon, hv (',' :: rest) (follows_cons (by simp) rest)]
    rfl

theorem readEntries_separated {entries : List (String × Json)} (hne : entries ≠ [])
    (hentries : ∀ e ∈ entries, ReadsBack e.2) (rest : List Char)
    (hfuel : (separated [','] (writeEntries entries)).length < fuel) :
    readEntries fuel (separated [','] (writeEntries entries) ++ '\x7d' :: rest) =
      some (arrangedEntries entries, rest) := by
  induction entries generalizing fuel with
  | nil => exact absurd rfl hne
  | cons e entries ih =>
    obtain ⟨k, v⟩ := e
    cases fuel with
    | zero => cases hfuel
    | succ fuel =>
      obtain ⟨hv, hrest⟩ : ReadsBack v ∧ ∀ e ∈ entries, ReadsBack e.2 :=
        List.forall_mem_cons.mp hentries
      have hlength : (writeValue v).length ≤ (writeEntry k v).length := by
        simp only [writeEntry, List.length_append, List.length_cons]
        omega
      cases entries with
      | nil =>
        have hshort : (writeEntry k v).length < fuel + 1 := hfuel
        exact (readEntries_writeEntry k fun tail => hv fuel tail (by omega)).1 rest
      | cons next entries =>
        have htext : separated [','] (writeEntries ((k, v) :: next :: entries)) =
            writeEntry k v ++ ',' :: separated [','] (writeEntries (next :: entries)) := by
          simp [writeEntries, writeEntry, separated]
        rw [htext, List.length_append, List.length_cons] at hfuel
        have hmore := @ih fuel (List.cons_ne_nil _ _) hrest (by omega)
        rw [htext, List.append_assoc, List.cons_append,
          (readEntries_writeEntry k fun tail => hv fuel tail (by omega)).2, hmore]
        rfl

theorem readValue_list {t : List Char} (hblank : ¬ isSpace c) (hne : c ≠ ']') :
    readValue (fuel + 1) ('[' :: c :: t) =
      (readItems fuel (c :: t)).map fun (items, rest) => (.arr items, rest) := by
  have hopen : skipSpace ('[' :: c :: t) = '[' :: c :: t := rfl
  have hskip : skipSpace (c :: t) = c :: t := List.dropWhile_cons_of_neg hblank
  rw [readValue, hopen]
  simp only [hskip]
  split
  · rename_i hcons
    exact absurd (List.cons.inj hcons).1 hne
  · rfl

theorem readsBack_arr {items : List Json} (hexact : ∀ v ∈ items, v.Exact)
    (hitems : ∀ v ∈ items, ReadsBack v) : ReadsBack (.arr items) := by
  rintro (_ | fuel) rest hfuel -
  · cases hfuel
  · cases items with
    | nil => rfl
    | cons v items =>
      have htext : writeValue (.arr (v :: items)) ++ rest =
          '[' :: (separated [','] (writeItems (v :: items)) ++ ']' :: rest) := by
        simp [writeValue]
      have hlength := congrArg List.length htext
      simp only [List.length_append, List.length_cons] at hlength
      have hshort : (separated [','] (writeItems (v :: items))).length < fuel := by omega
      have hread := readItems_separated (List.cons_ne_nil v items) hitems rest hshort
      obtain ⟨c, t, hc, hblank, hne⟩ : ∃ c t,
          separated [','] (writeItems (v :: items)) ++ ']' :: rest = c :: t ∧ ¬ isSpace c ∧
            c ≠ ']' := by
        obtain ⟨c, t, hc, hblank, hne⟩ := exists_writeValue (hexact v List.mem_cons_self)
        cases items <;> exact ⟨c, _, by simp [writeItems, separated, hc]; rfl, hblank, hne⟩
      rw [hc] at hread
      rw [htext, hc, readValue_list hblank hne, hread]
      rfl

theorem readsBack_obj {entries : List (String × Json)}
    (hentries : ∀ e ∈ entries, ReadsBack e.2) : ReadsBack (.obj entries) := by
  rintro (_ | fuel) rest hfuel -
  · cases hfuel
  · cases entries with
    | nil => rfl
    | cons e entries =>
      obtain ⟨k, v⟩ := e
      have htext : writeValue (.obj ((k, v) :: entries)) ++ rest =
          '\x7b' :: (separated [','] (writeEntries ((k, v) :: entries)) ++ '\x7d' :: rest) := by
        simp [writeValue]
      have hlength := congrArg List.length htext
      simp only [List.length_append, List.length_cons] at hlength
      have hshort : (separated [','] (writeEntries ((k, v) :: entries))).length < fuel := by omega
      have hread := readEntries_separated (List.cons_ne_nil (k, v) entries) hentries rest hshort
      obtain ⟨t, ht⟩ : ∃ t,
          separated [','] (writeEntries ((k, v) :: entries)) ++ '\x7d' :: rest = '"' :: t := by
        cases entries <;> exact ⟨_, rfl⟩
      rw [ht] at hread
      rw [htext, ht]
      show (readEntries fuel ('"' :: t)).map _ = _
      rw [hread]
      rfl

theorem readsBack_of_exact (hv : v.Exact) : ReadsBack v := by
  induction hv with
  | null =>
    rintro (_ | fuel) rest hfuel -
    · cases hfuel
    · rfl
  | bool value =>
    rintro (_ | fuel) rest hfuel -
    · cases value <;> cases hfuel
    · cases value <;> rfl
  | int hlow hhigh => exact readsBack_int hlow hhigh
  | str value => exact readsBack_str value
  | arr hitems ih => exact readsBack_arr hitems ih
  | obj hentries ih => exact readsBack_obj ih

theorem compress_obj_ne (entries : List (String × Json)) : (obj entries).compress ≠ "" := by
  intro hempty
  have hlist := congrArg String.toList hempty
  rw [compress, String.toList_ofList] at hlist
  cases hlist

theorem parse?_compress (hv : v.Exact) : parse? v.compress = some v.arranged := by
  have hread := readsBack_of_exact hv ((writeValue v).length + 1) [] (Nat.le_succ _) follows_nil
  rw [List.append_nil] at hread
  unfold parse? compress parseChars
  rw [String.toList_ofList, hread]
  rfl

theorem mem_separated {parts : List (List Char)} (hc : c ∈ separated [','] parts) :
    c = ',' ∨ ∃ part ∈ parts, c ∈ part := by
  induction parts with
  | nil => cases hc
  | cons part parts ih =>
    cases parts with
    | nil => exact .inr ⟨part, List.mem_cons_self, hc⟩
    | cons next parts =>
      rw [separated, List.append_assoc] at hc
      rcases List.mem_append.mp hc with hpart | hc
      · exact .inr ⟨part, List.mem_cons_self, hpart⟩
      rcases List.mem_append.mp hc with hcomma | hc
      · exact .inl (List.mem_singleton.mp hcomma)
      rcases ih hc with hcomma | ⟨other, hother, hc⟩
      · exact .inl hcomma
      · exact .inr ⟨other, List.mem_cons_of_mem _ hother, hc⟩

theorem mem_writeItems {items : List Json} {part : List Char} (hpart : part ∈ writeItems items) :
    ∃ v ∈ items, part = writeValue v := by
  induction items with
  | nil => cases hpart
  | cons v items ih =>
    rcases List.mem_cons.mp hpart with rfl | hpart
    · exact ⟨v, List.mem_cons_self, rfl⟩
    · obtain ⟨w, hw, rfl⟩ := ih hpart
      exact ⟨w, List.mem_cons_of_mem _ hw, rfl⟩

theorem mem_writeEntries {entries : List (String × Json)} {part : List Char}
    (hpart : part ∈ writeEntries entries) : ∃ e ∈ entries, part = writeEntry e.1 e.2 := by
  induction entries with
  | nil => cases hpart
  | cons e entries ih =>
    rcases List.mem_cons.mp hpart with rfl | hpart
    · exact ⟨e, List.mem_cons_self, rfl⟩
    · obtain ⟨other, hother, rfl⟩ := ih hpart
      exact ⟨other, List.mem_cons_of_mem _ hother, rfl⟩

theorem le_of_mem_of_all (hs : s.all (0x20 ≤ ·.toNat)) (hc : c ∈ s) : 0x20 ≤ c.toNat :=
  of_decide_eq_true (List.all_eq_true.mp hs c hc)

theorem le_of_mem_escapeChar {d : Char} (hd : d ∈ escapeChar c) : 0x20 ≤ d.toNat := by
  by_cases hshort : c ∈ shortEscaped
  · simp only [shortEscaped, List.mem_cons, List.not_mem_nil, or_false] at hshort
    rcases hshort with rfl | rfl | rfl | rfl | rfl | rfl | rfl <;>
      exact le_of_mem_of_all (by decide) hd
  · by_cases hcontrol : c.toNat < 0x20
    · have hall : ∀ n < 0x20, ['\\', 'u', '0', '0', hexDigit (n / 16), hexDigit (n % 16)].all
          (0x20 ≤ ·.toNat) := by decide
      rw [escapeChar_of_control hshort hcontrol] at hd
      exact le_of_mem_of_all (hall c.toNat hcontrol) hd
    · rw [escapeChar_of_plain hshort hcontrol] at hd
      rw [List.mem_singleton.mp hd]
      exact Nat.le_of_not_lt hcontrol

theorem le_of_mem_writeString {text : String} (hc : c ∈ writeString text) : 0x20 ≤ c.toNat := by
  rcases List.mem_append.mp hc with hc | hc
  · rcases List.mem_cons.mp hc with rfl | hc
    · decide
    · obtain ⟨d, -, hd⟩ := List.mem_flatMap.mp hc
      exact le_of_mem_escapeChar hd
  · rw [List.mem_singleton.mp hc]
    decide

theorem le_of_mem_toDigits (hc : c ∈ Nat.toDigits 10 n) : 0x20 ≤ c.toNat := by
  have hdigit := isDecimal_of_mem_toDigits hc
  have hzero : '0' ≤ c := by
    simp only [isDecimal, Bool.and_eq_true, decide_eq_true_eq] at hdigit
    exact hdigit.1
  exact Nat.le_trans (by decide) (UInt32.le_iff_toNat_le.mp (Char.le_def.mp hzero))

theorem le_of_mem_bracketed {opening closing : Char} {parts : List (List Char)}
    (hopening : 0x20 ≤ opening.toNat) (hclosing : 0x20 ≤ closing.toNat)
    (hparts : ∀ part ∈ parts, ∀ c ∈ part, 0x20 ≤ c.toNat)
    (hc : c ∈ opening :: separated [','] parts ++ [closing]) : 0x20 ≤ c.toNat := by
  rcases List.mem_append.mp hc with hc | hc
  · rcases List.mem_cons.mp hc with rfl | hc
    · exact hopening
    rcases mem_separated hc with rfl | ⟨part, hpart, hc⟩
    · decide
    · exact hparts part hpart c hc
  · rw [List.mem_singleton.mp hc]
    exact hclosing

theorem le_of_mem_writeValue (hv : v.Exact) (hc : c ∈ writeValue v) : 0x20 ≤ c.toNat := by
  induction hv generalizing c with
  | null => exact le_of_mem_of_all (by decide) hc
  | bool value => cases value <;> exact le_of_mem_of_all (by decide) hc
  | @int value _ _ =>
    rw [writeValue] at hc
    cases value with
    | ofNat n => exact le_of_mem_toDigits (writeInt_ofNat n ▸ hc)
    | negSucc n =>
      rw [writeInt_negSucc] at hc
      rcases List.mem_cons.mp hc with rfl | hc
      · decide
      · exact le_of_mem_toDigits hc
  | str value => exact le_of_mem_writeString hc
  | arr hitems ih =>
    refine le_of_mem_bracketed (by decide) (by decide) (fun part hpart c hc => ?_) hc
    obtain ⟨w, hw, rfl⟩ := mem_writeItems hpart
    exact ih w hw hc
  | obj hentries ih =>
    refine le_of_mem_bracketed (by decide) (by decide) (fun part hpart c hc => ?_) hc
    obtain ⟨e, he, rfl⟩ := mem_writeEntries hpart
    rcases List.mem_append.mp hc with hc | hc
    · exact le_of_mem_writeString hc
    rcases List.mem_cons.mp hc with rfl | hc
    · decide
    · exact ih e he hc

end ScriptCheck.Json

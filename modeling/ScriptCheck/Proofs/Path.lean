import Mathlib.Data.List.Basic
import ScriptCheck.Host.Tree
import ScriptCheck.Proofs.Text.Split

/-! Paths as texts: what makes a path absolute, how paths are joined, and the names and components
that slashes keep apart. -/

namespace ScriptCheck.Path

variable {path : Path} {names : List String}

theorem text_join (dir path : Path) : ∃ front, (dir.join path).text = front ++ path.text := by
  unfold join
  split
  · exact ⟨"", String.empty_append.symm⟩
  split
  · exact ⟨dir.text, rfl⟩
  · exact ⟨dir.text ++ "/", rfl⟩

theorem exists_toList_of_isAbsolute (habsolute : path.isAbsolute = true) :
    ∃ rest, path.text.toList = '/' :: rest := by
  have hhead : path.text.toList.head? = some '/' := of_decide_eq_true habsolute
  exact List.head?_eq_some_iff.mp hhead

theorem text_ne_empty_of_isAbsolute (habsolute : path.isAbsolute = true) : path.text ≠ "" := by
  obtain ⟨rest, hrest⟩ := exists_toList_of_isAbsolute habsolute
  intro hempty
  rw [hempty] at hrest
  cases hrest

theorem isAbsolute_join {dir : Path} (hdir : dir.isAbsolute = true) (path : Path) :
    (dir.join path).isAbsolute = true := by
  obtain ⟨rest, hrest⟩ := exists_toList_of_isAbsolute hdir
  unfold join
  split
  next hpath =>
    rcases hpath with habsolute | hempty
    · exact habsolute
    · exact absurd hempty (text_ne_empty_of_isAbsolute hdir)
  split <;> simp [isAbsolute, hrest]

theorem components_of_isAbsolute (habsolute : path.isAbsolute = true) :
    ∃ rest, path.components = .root :: rest := by
  unfold components
  simp only [habsolute, if_true]
  exact ⟨_, rfl⟩

theorem nul_notMem_of_sound (hsound : path.defect? = none) : '\x00' ∉ path.text.toList := by
  intro hnul
  unfold defect? at hsound
  rw [if_pos (List.contains_iff_mem.mpr hnul)] at hsound
  cases hsound

theorem text_ne_empty_of_sound (hsound : path.defect? = none) : path.text ≠ "" := by
  intro hempty
  have hdefect : path.defect? = some .notFound := by
    unfold defect?
    rw [hempty]
    rfl
  rw [hdefect] at hsound
  cases hsound

def IsWord (word : String) : Prop := word ≠ "" ∧ '/' ∉ word.toList

def rooted (names : List String) : Path := ⟨"/" ++ "/".intercalate names⟩

theorem split_intercalate_of_notMem (hne : names ≠ []) (hwords : ∀ word ∈ names, '/' ∉ word.toList) :
    Text.split '/' ("/".intercalate names) = names := by
  have hparts : ∀ part ∈ names.map String.toList, '/' ∉ part := by
    intro part hpart
    obtain ⟨word, hword, rfl⟩ := List.mem_map.mp hpart
    exact hwords word hword
  have htext : ("/".intercalate names).toList = ['/'].intercalate (names.map String.toList) := by
    simp [String.toList_intercalate]
  unfold Text.split
  rw [htext, Text.pieces_intercalate (by simpa using hne) hparts, List.map_map]
  simp [Function.comp_def]

theorem split_intercalate (hne : names ≠ []) (hwords : ∀ word ∈ names, IsWord word) :
    Text.split '/' ("/".intercalate names) = names :=
  split_intercalate_of_notMem hne fun word hword => (hwords word hword).2

theorem split_rooted (hne : names ≠ []) (hwords : ∀ word ∈ names, IsWord word) :
    Text.split '/' (rooted names).text = "" :: names := by
  have htext : (rooted names).text.toList = [] ++ '/' :: ("/".intercalate names).toList := by
    simp [rooted]
  have hrest := split_intercalate hne hwords
  unfold Text.split at hrest ⊢
  rw [htext, Text.pieces_append_cons List.not_mem_nil, List.map_cons, hrest]

theorem names_rooted (hne : names ≠ []) (hwords : ∀ word ∈ names, IsWord word) :
    (rooted names).names = names := by
  have hfilter : ("" :: names).filter (· ≠ "") = names := by
    rw [List.filter_cons_of_neg (by simp), List.filter_eq_self]
    exact fun word hword => decide_eq_true (hwords word hword).1
  have hlast : ("" :: names).getLast? ≠ some "" := by
    rw [List.getLast?_cons_of_ne_nil hne]
    exact fun hempty => (hwords "" (List.mem_of_getLast? hempty)).1 rfl
  unfold Path.names
  simp only [split_rooted hne hwords, hfilter]
  exact if_neg fun hboth => hlast hboth.1

theorem exists_intercalate_eq (hne : names ≠ []) :
    ∃ first ∈ names, ∃ rest, "/".intercalate names = first ++ rest := by
  obtain ⟨first, names, rfl⟩ := List.exists_cons_of_ne_nil hne
  cases names with
  | nil => exact ⟨first, List.mem_cons_self, "", by simp⟩
  | cons next names =>
    refine ⟨first, List.mem_cons_self, "/" ++ "/".intercalate (next :: names), ?_⟩
    rw [String.intercalate_cons_cons, String.append_assoc]

theorem exists_intercalate_eq_append (hne : names ≠ []) :
    ∃ last ∈ names, ∃ front, "/".intercalate names = front ++ last := by
  rcases List.eq_nil_or_concat names with rfl | ⟨others, last, rfl⟩
  · exact absurd rfl hne
  rw [List.concat_eq_append]
  refine ⟨last, List.mem_append_right _ (List.mem_singleton_self last), ?_⟩
  by_cases hothers : others = []
  · exact ⟨"", by simp [hothers]⟩
  · refine ⟨"/".intercalate others ++ "/", ?_⟩
    rw [String.intercalate_append_of_ne_nil hothers (List.cons_ne_nil _ _),
      String.intercalate_singleton]

theorem join_rooted {others : List String} (hnames : ∀ name ∈ names, IsWord name)
    (hne : others ≠ []) (hothers : ∀ name ∈ others, IsWord name) :
    (rooted names).join ⟨"/".intercalate others⟩ = rooted (names ++ others) := by
  obtain ⟨first, hfirst, rest, hrest⟩ := exists_intercalate_eq hne
  have hrelative : (⟨"/".intercalate others⟩ : Path).isAbsolute = false := by
    obtain ⟨c, cs, hfirstChars⟩ := List.exists_cons_of_ne_nil (l := first.toList) (by
      simpa using (hothers first hfirst).1)
    have hslash : '/' ∉ c :: cs := hfirstChars ▸ (hothers first hfirst).2
    unfold isAbsolute
    rw [hrest, String.toList_append, hfirstChars]
    refine decide_eq_false fun hhead => hslash ?_
    rw [← Option.some.inj hhead]
    exact List.mem_cons_self
  unfold join
  rw [if_neg (by simp [hrelative, rooted])]
  by_cases hroot : names = []
  · subst hroot
    rfl
  · rw [if_neg]
    · unfold rooted
      rw [String.intercalate_append_of_ne_nil hroot hne]
      simp only [String.append_assoc]
    · obtain ⟨last, hlast, front, hfront⟩ := exists_intercalate_eq_append hroot
      unfold rooted
      simp only
      rw [hfront, String.toList_append, String.toList_append, ← List.append_assoc,
        List.getLast?_append_of_ne_nil _ (by simpa using (hnames last hlast).1)]
      exact fun hslash => (hnames last hlast).2 (List.mem_of_getLast? hslash)

def words (path : Path) : List String :=
  (Text.split '/' path.text).filter fun piece => piece ≠ "" ∧ piece ≠ "."

theorem isWord_of_mem_words {word : String} (hword : word ∈ path.words) : IsWord word := by
  obtain ⟨hmem, hkept⟩ := List.mem_filter.mp hword
  have hboth : word ≠ "" ∧ word ≠ "." := of_decide_eq_true hkept
  exact ⟨hboth.1, Text.notMem_of_mem_split hmem⟩

theorem filter_names (hlast : path.names.getLast? ≠ some ".") :
    path.names.filter (· ≠ ".") = path.words := by
  have hnames : path.names = (Text.split '/' path.text).filter (· ≠ "") := by
    unfold names at hlast ⊢
    simp only at hlast ⊢
    split at hlast
    · exact absurd List.getLast?_concat hlast
    · next hplain => exact if_neg hplain
  rw [hnames, List.filter_filter]
  unfold words
  refine List.filter_congr fun piece _ => ?_
  simp [Bool.and_comm]

def componentOf (word : String) : Component := if word = ".." then .up else .name word

theorem components_eq (path : Path) : path.components =
    (if path.isAbsolute then [.root]
      else if (Text.split '/' path.text).head? = some "." then [.here] else []) ++
        path.words.map componentOf := by
  have hwords (pieces : List String) : (pieces.filterMap fun piece =>
        if piece = "" ∨ piece = "." then none
        else if piece = ".." then some Component.up else some (.name piece)) =
      (pieces.filter fun piece => piece ≠ "" ∧ piece ≠ ".").map componentOf := by
    induction pieces with
    | nil => rfl
    | cons piece pieces ih =>
      simp only [List.filterMap_cons, ih]
      by_cases hpiece : piece = "" ∨ piece = "."
      · rw [if_pos hpiece, List.filter_cons_of_neg (by rcases hpiece with rfl | rfl <;> simp)]
      · rw [if_neg hpiece, List.filter_cons_of_pos (by simpa using hpiece)]
        by_cases hup : piece = ".." <;> simp [componentOf, hup]
  unfold components
  simp only [hwords]
  rfl

theorem exists_components_eq (hrelative : path.isAbsolute = false) :
    ∃ start, (start = [] ∨ start = [.here]) ∧
      path.components = start ++ path.words.map componentOf := by
  have hcomponents := path.components_eq
  rw [hrelative, if_neg Bool.false_ne_true] at hcomponents
  refine ⟨_, ?_, hcomponents⟩
  split
  · exact .inr rfl
  · exact .inl rfl

theorem filter_components (hrelative : path.isAbsolute = false) :
    path.components.filter (· ≠ .here) = path.words.map componentOf := by
  have hnamed (word : String) : componentOf word ≠ .here := by
    unfold componentOf
    split <;> nofun
  have hkept : (path.words.map componentOf).filter (· ≠ .here) = path.words.map componentOf := by
    refine List.filter_eq_self.mpr fun component hcomponent => decide_eq_true ?_
    obtain ⟨word, -, rfl⟩ := List.mem_map.mp hcomponent
    exact hnamed word
  obtain ⟨start, hstart, hcomponents⟩ := exists_components_eq hrelative
  rw [hcomponents, List.filter_append, hkept]
  rcases hstart with rfl | rfl <;> rfl

theorem ofComponents_map (names : List String) :
    ofComponents (names.map componentOf) = ⟨"/".intercalate names⟩ := by
  unfold ofComponents
  simp only
  split
  next hroot =>
    obtain ⟨name, -, hname⟩ := List.mem_map.mp (hroot ▸ List.mem_singleton_self Component.root)
    unfold componentOf at hname
    split at hname <;> cases hname
  next hroot =>
    rw [List.map_map]
    congr 2
    refine (List.map_congr_left fun name _ => ?_).trans (List.map_id names)
    simp only [Function.comp, componentOf]
    by_cases hup : name = ".."
    · rw [if_pos hup]
      exact hup.symm
    · rw [if_neg hup]
      rfl

def IsName (path : Path) : Prop := path.text ≠ "" ∧ '/' ∉ path.text.toList

theorem IsName.not_isAbsolute (hname : path.IsName) : path.isAbsolute = false := by
  refine decide_eq_false fun hhead => hname.2 ?_
  exact List.mem_of_mem_head? hhead

theorem IsName.length_components (hname : path.IsName) : path.components.length ≤ 1 := by
  unfold components
  simp only [hname.not_isAbsolute, Text.split_of_notMem hname.2, List.head?_cons]
  by_cases hdot : path.text = "."
  · simp [hdot]
  · have hhead : ¬ some path.text = some "." := fun heq => hdot (Option.some.inj heq)
    rw [if_neg Bool.false_ne_true, if_neg hhead, List.nil_append]
    exact List.length_filterMap_le _ [path.text]

structure IsRelative (path : Path) : Prop where
  notAbsolute : path.isAbsolute = false
  several : 1 < path.components.length
  sound : path.defect? = none
  file : path.names.getLast? ≠ some "."

theorem IsRelative.words_ne_nil (hrelative : path.IsRelative) : path.words ≠ [] := by
  obtain ⟨start, hstart, hcomponents⟩ := exists_components_eq hrelative.notAbsolute
  intro hnil
  have hseveral := hrelative.several
  rw [hcomponents, hnil] at hseveral
  rcases hstart with rfl | rfl <;> exact absurd hseveral (by decide)

def lead (dir : Path) : String :=
  if dir.text.toList.getLast? = some '/' then dir.text else dir.text ++ "/"

def below (dir : Path) (names : List String) : Path :=
  names.foldl (fun path name => path.join ⟨name⟩) dir

theorem join_word {dir : Path} {name : String} (hdir : dir.text ≠ "") (hname : IsWord name) :
    dir.join ⟨name⟩ = ⟨dir.lead ++ name⟩ := by
  have hrelative : (⟨name⟩ : Path).isAbsolute = false := IsName.not_isAbsolute hname
  unfold join lead
  rw [if_neg (by simp [hrelative, hdir])]
  split <;> rfl

theorem lead_join_word {dir : Path} {name : String} (hdir : dir.text ≠ "") (hname : IsWord name) :
    (dir.join ⟨name⟩).lead = dir.lead ++ name ++ "/" := by
  have hlast : (dir.lead ++ name).toList.getLast? ≠ some '/' := by
    rw [String.toList_append, List.getLast?_append_of_ne_nil _ (by simpa using hname.1)]
    exact fun hslash => hname.2 (List.mem_of_getLast? hslash)
  rw [join_word hdir hname, lead, if_neg hlast]

theorem text_below {dir : Path} (hdir : dir.text ≠ "") (hne : names ≠ [])
    (hwords : ∀ word ∈ names, IsWord word) :
    (dir.below names).text = dir.lead ++ "/".intercalate names := by
  induction names generalizing dir with
  | nil => exact absurd rfl hne
  | cons name names ih =>
    obtain ⟨hname, hrest⟩ := List.forall_mem_cons.mp hwords
    show ((dir.join ⟨name⟩).below names).text = _
    cases names with
    | nil =>
      rw [String.intercalate_singleton]
      exact congrArg Path.text (join_word hdir hname)
    | cons next names =>
      have hjoin : (dir.join ⟨name⟩).text ≠ "" := by
        rw [join_word hdir hname]
        exact fun hempty => hname.1 (String.append_eq_empty_iff.mp hempty).2
      rw [ih hjoin (List.cons_ne_nil _ _) hrest, lead_join_word hdir hname,
        String.intercalate_cons_cons]
      simp only [String.append_assoc]

theorem below_inj {dir : Path} {others : List String} (hdir : dir.text ≠ "") (hne : names ≠ [])
    (hwords : ∀ word ∈ names, IsWord word) (hne' : others ≠ [])
    (hwords' : ∀ word ∈ others, IsWord word) (hsame : dir.below names = dir.below others) :
    names = others := by
  have htexts := congrArg (·.text.toList) hsame
  simp only [text_below hdir hne hwords, text_below hdir hne' hwords', String.toList_append,
    List.append_cancel_left_eq, String.toList_inj] at htexts
  rw [← split_intercalate hne hwords, htexts, split_intercalate hne' hwords']

theorem names_of_split (hsplit : Text.split '/' path.text = names)
    (hlast : names.getLast? ≠ some "") : path.names = names.filter (· ≠ "") := by
  unfold Path.names
  simp only [hsplit]
  exact if_neg fun hboth => hlast hboth.1

theorem getLast?_names_of_split {last : String}
    (hsplit : Text.split '/' path.text = names ++ [last]) (hlast : last ≠ "") :
    path.names.getLast? = some last := by
  rw [names_of_split hsplit (by simpa using hlast), List.filter_append]
  simp [hlast]

theorem names_ne_nil {c : Char} (hc : c ∈ path.text.toList) (hslash : c ≠ '/') :
    path.names ≠ [] := by
  have hflat : c ∈ (Text.pieces '/' path.text.toList).flatten := by
    rw [Text.flatten_pieces]
    exact List.mem_filter.mpr ⟨hc, decide_eq_true hslash⟩
  obtain ⟨piece, hpiece, hmem⟩ := List.mem_flatten.mp hflat
  have hnamed : String.ofList piece ∈ (Text.split '/' path.text).filter (· ≠ "") := by
    refine List.mem_filter.mpr ⟨List.mem_map_of_mem hpiece, decide_eq_true fun hempty => ?_⟩
    rw [← String.toList_inj, String.toList_ofList] at hempty
    rw [hempty] at hmem
    cases hmem
  unfold names
  simp only
  split
  · exact List.append_ne_nil_of_right_ne_nil _ (List.cons_ne_nil _ _)
  · exact List.ne_nil_of_mem hnamed

def IsPlain (path : Path) : Prop := path.names.getLast? = some "." → path = ⟨"."⟩

theorem isPlain_of_split {last : String} (hsplit : Text.split '/' path.text = names ++ [last])
    (hlast : last ≠ "" ∧ last ≠ ".") : path.IsPlain := by
  intro hdot
  rw [getLast?_names_of_split hsplit hlast.1] at hdot
  exact absurd (Option.some.inj hdot) hlast.2

def Component.word : Component → String
  | root => ""
  | here => "."
  | up => ".."
  | name text => text

theorem Component.word_componentOf (word : String) : (componentOf word).word = word := by
  unfold componentOf
  by_cases hup : word = ".."
  · rw [if_pos hup]
    exact hup.symm
  · rw [if_neg hup]
    rfl

theorem split_ofComponents {parts : List Component} (hne : parts ≠ []) (hparts : parts ≠ [.root])
    (hwords : ∀ part ∈ parts, '/' ∉ part.word.toList) :
    Text.split '/' (ofComponents parts).text = parts.map Component.word := by
  have htext : (ofComponents parts).text = "/".intercalate (parts.map Component.word) := by
    unfold ofComponents
    simp only
    rfl
  rw [htext]
  refine split_intercalate_of_notMem (by simpa using hne) fun word hword => ?_
  obtain ⟨part, hpart, rfl⟩ := List.mem_map.mp hword
  exact hwords part hpart

theorem componentOf_ne_root (word : String) : componentOf word ≠ .root := by
  unfold componentOf
  split <;> nofun

def IsStart (start : List Component) : Prop := start = [] ∨ start = [.here] ∨ start = [.root]

theorem isPlain_ofComponents {start : List Component} (hstart : IsStart start)
    (hwords : ∀ word ∈ names, '/' ∉ word.toList ∧ word ≠ "" ∧ word ≠ ".") :
    (ofComponents (start ++ names.map componentOf)).IsPlain := by
  rcases List.eq_nil_or_concat names with rfl | ⟨front, last, rfl⟩
  · unfold IsPlain
    rcases hstart with rfl | rfl | rfl <;> decide
  rw [List.concat_eq_append] at hwords ⊢
  have hlast := (hwords last (by simp)).2
  have hsplit : Text.split '/' (ofComponents (start ++ (front ++ [last]).map componentOf)).text =
      start.map Component.word ++ front ++ [last] := by
    rw [split_ofComponents (by simp)]
    · simp [Function.comp_def, Component.word_componentOf]
    · rcases hstart with rfl | rfl | rfl <;>
        cases front <;> simp [componentOf_ne_root]
    · intro part hpart
      rcases List.mem_append.mp hpart with hpart | hpart
      · rcases hstart with rfl | rfl | rfl
        · cases hpart
        · rw [List.mem_singleton.mp hpart]
          decide
        · rw [List.mem_singleton.mp hpart]
          decide
      · obtain ⟨word, hword, rfl⟩ := List.mem_map.mp hpart
        rw [Component.word_componentOf]
        exact (hwords word hword).1
  exact isPlain_of_split hsplit hlast

theorem isPlain_of_parent? {parent : Path} (hparent : path.parent? = some parent) :
    parent.IsPlain := by
  obtain ⟨start, hstart, hcomponents⟩ : ∃ start, IsStart start ∧
      path.components = start ++ path.words.map componentOf := by
    refine ⟨_, ?_, path.components_eq⟩
    split
    · exact .inr (.inr rfl)
    split
    · exact .inr (.inl rfl)
    · exact .inl rfl
  have hwords : ∀ word ∈ path.words, '/' ∉ word.toList ∧ word ≠ "" ∧ word ≠ "." := by
    intro word hword
    have hkept : word ≠ "" ∧ word ≠ "." := of_decide_eq_true (List.mem_filter.mp hword).2
    exact ⟨(isWord_of_mem_words hword).2, hkept⟩
  have hdropped : parent = ofComponents path.components.dropLast := by
    unfold parent? at hparent
    split at hparent
    · cases hparent
    · cases hparent
    · exact (Option.some.inj hparent).symm
  rw [hdropped, hcomponents]
  rcases List.eq_nil_or_concat path.words with hnil | ⟨front, last, hconcat⟩
  · have hnone : (start ++ path.words.map componentOf).dropLast = [] ++ [].map componentOf := by
      rw [hnil]
      rcases hstart with rfl | rfl | rfl <;> rfl
    rw [hnone]
    exact isPlain_ofComponents (.inl rfl) (List.forall_mem_nil _)
  · rw [List.concat_eq_append] at hconcat
    rw [hconcat] at hwords ⊢
    rw [List.map_append, ← List.append_assoc, List.map_singleton, List.dropLast_concat]
    exact isPlain_ofComponents hstart fun word hword => hwords word (List.mem_append_left _ hword)

theorem split_join_word (dir : Path) {name : String} (hname : IsWord name) :
    ∃ front, Text.split '/' (dir.join ⟨name⟩).text = front ++ [name] := by
  have hrelative : (⟨name⟩ : Path).isAbsolute = false := IsName.not_isAbsolute hname
  unfold join
  rw [hrelative]
  split
  · exact ⟨[], Text.split_of_notMem hname.2⟩
  split
  next hslash =>
    obtain ⟨front, hfront⟩ := List.getLast?_eq_some_iff.mp hslash
    have htext : dir.text = .ofList front ++ .singleton '/' := by
      rw [← String.toList_inj, hfront]
      simp
    rw [htext]
    exact ⟨_, Text.split_append_of_notMem hname.2 _⟩
  next => exact ⟨_, Text.split_append_of_notMem hname.2 _⟩

theorem getLast?_names_join (dir : Path) {name : String} (hname : IsWord name) :
    (dir.join ⟨name⟩).names.getLast? = some name := by
  obtain ⟨front, hsplit⟩ := dir.split_join_word hname
  exact getLast?_names_of_split hsplit hname.1

theorem names_join_ne_nil (dir : Path) {name : String} (hname : IsWord name) :
    (dir.join ⟨name⟩).names ≠ [] := by
  intro hnil
  have hlast := dir.getLast?_names_join hname
  rw [hnil] at hlast
  cases hlast

theorem isPlain_join (dir : Path) {name : String} (hname : IsWord name) (hdot : name ≠ ".") :
    (dir.join ⟨name⟩).IsPlain := by
  intro hlast
  rw [dir.getLast?_names_join hname] at hlast
  exact absurd (Option.some.inj hlast) hdot

theorem extension?_append {ext : List Char} (hext : '.' ∉ ext) (stem : List Char) :
    extension? (.ofList (stem ++ '.' :: ext)) =
      if stem = [] then none else some (.ofList ext) := by
  unfold extension?
  rw [String.toList_ofList, Text.pieces_append_cons_of_notMem hext, List.reverse_append,
    List.reverse_singleton, List.singleton_append]
  by_cases hdot : '.' ∈ stem
  · obtain ⟨first, rest, rfl, hfirst⟩ := List.eq_append_cons_of_mem hdot
    obtain ⟨last, others, hlast⟩ := List.exists_cons_of_ne_nil (l := (Text.pieces '.' rest).reverse)
      (by simpa using Text.pieces_ne_nil '.' rest)
    rw [Text.pieces_append_cons hfirst, List.reverse_cons, hlast, if_neg (by simp)]
    cases others <;> rfl
  · rw [Text.pieces_of_notMem hdot]
    cases stem <;> rfl

theorem extension?_eq_some_iff {name ext : String} : extension? name = some ext ↔
    ∃ stem, stem ≠ "" ∧ '.' ∉ ext.toList ∧ name = stem ++ "." ++ ext := by
  constructor
  · intro hextension
    by_cases hdot : '.' ∈ name.toList
    · obtain ⟨back, front, hsplit, hback⟩ :=
        List.eq_append_cons_of_mem (List.mem_reverse.mpr hdot)
      have hname : name.toList = front.reverse ++ '.' :: back.reverse := by
        rw [← List.reverse_inj, hsplit]
        simp
      have hspelled : name = .ofList (front.reverse ++ '.' :: back.reverse) := by
        rw [← hname, String.ofList_toList]
      rw [hspelled, extension?_append (by simpa using hback)] at hextension
      split at hextension
      · cases hextension
      next hfront =>
        cases hextension
        refine ⟨.ofList front.reverse, by simpa using hfront, by simpa using hback, ?_⟩
        rw [← String.toList_inj, hname]
        simp
    · unfold extension? at hextension
      rw [Text.pieces_of_notMem hdot] at hextension
      cases hextension
  · rintro ⟨stem, hstem, hext, rfl⟩
    have hspelled : stem ++ "." ++ ext = .ofList (stem.toList ++ '.' :: ext.toList) := by
      rw [← String.toList_inj]
      simp
    rw [hspelled, extension?_append hext, if_neg (by simpa using hstem), String.ofList_toList]

end ScriptCheck.Path

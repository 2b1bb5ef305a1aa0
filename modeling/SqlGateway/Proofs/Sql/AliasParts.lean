import SqlGateway.Proofs.Sql.Protection
import SqlGateway.Proofs.Sql.Swapping
import SqlGateway.Sql.Alias

/-!
# The alias of a table and the part split off

Two routines look for the alias of a table. One tells the alias: the word AS counts as a separator
where blanks of any kind surround it, and so do spaces and tabs; the alias follows the last
separator. The other splits off what comes from the first space or tab on, whatever it is, and puts
it back behind the protected name.

Where something is split off, there is an alias, and the part split off ends in it. But where the
word AS stands between line breaks and there are no spaces and tabs, there is an alias and nothing
is split off.

Main definitions:

* `Chars.HasGap`: a space or a tab is in the text.
* `Identifier.HasAs`: the word AS is in the text, between blanks.

Main results:

* `Identifier.isSome_alias?_iff`, `Identifier.cut_ne_nil_iff`: when each routine finds an alias.
* `Identifier.Rules.alias_split_off`: when they agree, and that they find the same alias.
-/

namespace SqlGateway

/-! ## Gaps -/

namespace Chars

def HasGap (cs : List Char) : Prop :=
  ∃ c ∈ cs, c = ' ' ∨ c = '\t'

instance (cs : List Char) : Decidable (HasGap cs) :=
  inferInstanceAs (Decidable (∃ c ∈ cs, c = ' ' ∨ c = '\t'))

theorem isBlank_of_gap {c : Char} (h : c = ' ' ∨ c = '\t') : isBlank c = true := by
  rcases h with rfl | rfl <;> rfl

theorem hasGap_cons {c : Char} {cs : List Char} :
    HasGap (c :: cs) ↔ (c = ' ' ∨ c = '\t') ∨ HasGap cs := by
  simp [HasGap]

/-- A text with a gap has a last one. -/
theorem HasGap.exists_last {cs : List Char} (h : HasGap cs) :
    ∃ before c rest, cs = before ++ c :: rest ∧ (c = ' ' ∨ c = '\t') ∧ ¬HasGap rest := by
  induction cs with
  | nil => simp [HasGap] at h
  | cons c cs ih =>
    by_cases hlater : HasGap cs
    · obtain ⟨before, d, rest, rfl, hd, hrest⟩ := ih hlater
      exact ⟨c :: before, d, rest, rfl, hd, hrest⟩
    · exact ⟨[], c, cs, rfl, (hasGap_cons.1 h).resolve_right hlater, hlater⟩

theorem squeezeGapsFrom_of_no_gap {cs : List Char} (h : ¬HasGap cs) (inGap : Bool) :
    squeezeGapsFrom inGap cs = cs := by
  induction cs generalizing inGap with
  | nil => rfl
  | cons c cs ih =>
    obtain ⟨hc, hcs⟩ := not_or.1 (hasGap_cons.not.1 h)
    rw [squeezeGapsFrom, if_neg hc, ih hcs]

/-- The last gap becomes a space, and what follows it stays. Inside a gap the space is there
already. -/
theorem squeezeGapsFrom_last_gap {c : Char} {rest : List Char} (hc : c = ' ' ∨ c = '\t')
    (hrest : ¬HasGap rest) (before : List Char) (inGap : Bool) :
    ∃ start, (if inGap then [' '] else []) ++ squeezeGapsFrom inGap (before ++ c :: rest) =
      start ++ ' ' :: rest := by
  induction before generalizing inGap with
  | nil =>
    refine ⟨[], ?_⟩
    rw [List.nil_append, squeezeGapsFrom, if_pos hc]
    cases inGap <;> exact congrArg (' ' :: ·) (squeezeGapsFrom_of_no_gap hrest true)
  | cons d before ih =>
    rw [List.cons_append, squeezeGapsFrom]
    by_cases hd : d = ' ' ∨ d = '\t'
    · obtain ⟨start, hstart⟩ := ih true
      rw [if_pos hd]
      refine ⟨start, ?_⟩
      cases inGap <;> exact hstart
    · obtain ⟨start, hstart⟩ := ih false
      rw [if_neg hd]
      refine ⟨(if inGap then [' '] else []) ++ d :: start, ?_⟩
      rw [List.append_assoc, List.cons_append, ← hstart]
      rfl

/-- A character that is no gap parts what is squeezed before it from what follows. -/
theorem squeezeGapsFrom_append {c : Char} (hc : ¬(c = ' ' ∨ c = '\t')) (rest before : List Char)
    (inGap : Bool) : squeezeGapsFrom inGap (before ++ c :: rest) =
      squeezeGapsFrom inGap before ++ c :: squeezeGaps rest := by
  induction before generalizing inGap with
  | nil =>
    show squeezeGapsFrom inGap (c :: rest) = c :: squeezeGaps rest
    rw [squeezeGapsFrom, if_neg hc]
    rfl
  | cons d before ih =>
    rw [List.cons_append, squeezeGapsFrom, squeezeGapsFrom]
    split
    · cases inGap with
      | true => exact ih true
      | false => exact congrArg (' ' :: ·) (ih true)
    · exact congrArg (d :: ·) (ih false)

/-- What follows a blank without a gap stays there, and still follows a blank. -/
theorem squeezeGaps_after_blank {c : Char} {rest : List Char} (hc : isBlank c = true)
    (hrest : ¬HasGap rest) (before : List Char) :
    ∃ start sep, isBlank sep = true ∧ squeezeGaps (before ++ c :: rest) = start ++ sep :: rest := by
  by_cases hgap : c = ' ' ∨ c = '\t'
  · obtain ⟨start, hstart⟩ := squeezeGapsFrom_last_gap hgap hrest before false
    exact ⟨start, ' ', rfl, hstart⟩
  · refine ⟨squeezeGaps before, c, hc, ?_⟩
    have hkept : squeezeGaps rest = rest := squeezeGapsFrom_of_no_gap hrest false
    rw [squeezeGaps, squeezeGapsFrom_append hgap, hkept]
    rfl

theorem space_mem_squeezeGaps_iff {cs : List Char} : ' ' ∈ squeezeGaps cs ↔ HasGap cs := by
  by_cases h : HasGap cs
  · obtain ⟨before, c, rest, rfl, hc, hrest⟩ := h.exists_last
    obtain ⟨start, hstart⟩ := squeezeGapsFrom_last_gap hc hrest before false
    have hsqueezed : squeezeGaps (before ++ c :: rest) = start ++ ' ' :: rest := hstart
    refine iff_of_true ?_ h
    rw [hsqueezed]
    exact List.mem_append_right _ (List.mem_cons_self ..)
  · have hkept : squeezeGaps cs = cs := squeezeGapsFrom_of_no_gap h false
    rw [hkept]
    exact iff_of_false (fun hmem => h ⟨' ', hmem, .inl rfl⟩) h

theorem afterLast?_append {sep : Char} {rest : List Char} (h : sep ∉ rest) (before : List Char) :
    afterLast? sep (before ++ sep :: rest) = some rest := by
  have hkeep : ∀ c ∈ rest.reverse, decide (c ≠ sep) = true := fun c hc =>
    decide_eq_true fun heq => h (heq ▸ List.mem_reverse.1 hc)
  have hreverse : (before ++ sep :: rest).reverse = rest.reverse ++ sep :: before.reverse := by simp
  rw [afterLast?, if_pos (List.mem_append_right _ (List.mem_cons_self ..)), hreverse,
    List.takeWhile_append_of_pos hkeep, List.takeWhile_cons_of_neg (by simp), List.append_nil,
    List.reverse_reverse]

/-! ## Words -/

/-- Blanks at the beginning of a text, the last of them told apart. -/
theorem exists_blanks {cs : List Char} (h : (cs.dropWhile isBlank).length ≠ cs.length) :
    ∃ init b, cs = init ++ b :: cs.dropWhile isBlank ∧ (∀ c ∈ init, isBlank c = true) ∧
      isBlank b = true := by
  have hparts : cs.takeWhile isBlank ++ cs.dropWhile isBlank = cs := List.takeWhile_append_dropWhile
  rcases List.eq_nil_or_concat' (cs.takeWhile isBlank) with hnil | ⟨init, b, hinit⟩
  · rw [hnil, List.nil_append] at hparts
    exact absurd (congrArg List.length hparts) h
  · have hblank : ∀ c ∈ init ++ [b], isBlank c = true := fun c hc =>
      List.mem_takeWhile_imp (hinit ▸ hc)
    rw [hinit, List.append_assoc] at hparts
    obtain ⟨hall, hb⟩ := List.forall_mem_append.1 hblank
    exact ⟨init, b, hparts.symm, hall, hb b (List.mem_singleton_self b)⟩

/-- Blanks have no other case. -/
theorem toUpper_of_isBlank {c : Char} (h : isBlank c = true) : c.toUpper = c := by
  have hcode : c.toNat < 97 ∨ 122 < c.toNat := by
    simp only [isBlank, Bool.or_eq_true, Bool.and_eq_true, decide_eq_true_eq, beq_iff_eq] at h
    omega
  unfold Char.toUpper
  rw [dif_neg]
  rintro ⟨hlow, hhigh⟩
  have hlow : 97 ≤ c.toNat := UInt32.le_iff_toNat_le.1 hlow
  have hhigh : c.toNat ≤ 122 := UInt32.le_iff_toNat_le.1 hhigh
  omega

/-- The letters are those of a word that the text begins with. -/
theorem afterLetters?_eq_some_iff {letters cs rest : List Char} :
    afterLetters? letters cs = some rest ↔
      ∃ word, cs = word ++ rest ∧ afterLetters? letters word = some [] := by
  induction letters generalizing cs with
  | nil =>
    constructor
    · intro h
      exact ⟨[], (Option.some.inj h), rfl⟩
    · rintro ⟨word, rfl, hword⟩
      rw [Option.some.inj hword]
      rfl
  | cons l letters ih =>
    constructor
    · intro h
      cases cs with
      | nil => cases h
      | cons c cs =>
        rw [afterLetters?] at h
        split at h
        · rename_i hsame
          obtain ⟨word, rfl, hword⟩ := ih.1 h
          exact ⟨c :: word, rfl, by rw [afterLetters?, if_pos hsame, hword]⟩
        · cases h
    · rintro ⟨word, rfl, hword⟩
      cases word with
      | nil => cases hword
      | cons c word =>
        rw [afterLetters?] at hword
        split at hword
        · rename_i hsame
          rw [List.cons_append, afterLetters?, if_pos hsame]
          exact ih.2 ⟨word, rfl, hword⟩
        · cases hword

end Chars

namespace Identifier

open Chars

/-! ## The word AS -/

/-- The word AS is in the text, between blanks. -/
def HasAs (cs : List Char) : Prop :=
  ∃ before b word c after, cs = before ++ b :: (word ++ c :: after) ∧ isBlank b = true ∧
    afterLetters? ['A', 'S'] word = some [] ∧ isBlank c = true

theorem HasAs.mono {cs ds : List Char} (h : HasAs cs) (hsuffix : cs <:+ ds) : HasAs ds := by
  obtain ⟨before, b, word, c, after, rfl, hb, hword, hc⟩ := h
  obtain ⟨lead, rfl⟩ := hsuffix
  exact ⟨lead ++ before, b, word, c, after, by simp, hb, hword, hc⟩

/-- The word begins with a letter. -/
theorem head?_as {word : List Char} (h : afterLetters? ['A', 'S'] word = some []) :
    ∃ c ∈ word.head?, isBlank c = false := by
  cases word with
  | nil => cases h
  | cons c word =>
    rw [afterLetters?] at h
    split at h
    · rename_i hsame
      refine ⟨c, rfl, Bool.eq_false_iff.2 fun hblank => ?_⟩
      -- a blank has no other case, and is not the letter itself
      rw [sameLetter, toUpper_of_isBlank hblank] at hsame
      obtain rfl : c = 'A' := by simpa using hsame
      cases hblank
    · cases h

/-- What is replaced is the word with the blanks around it. -/
theorem dropAs_eq_some {text : List Char} {found : Replacement} (h : dropAs text = some found) :
    HasAs text ∧ found.text = [' '] ∧ ∃ lead c after, text = lead ++ c :: after ∧
      isBlank c = true ∧ found.length = lead.length + 1 := by
  unfold dropAs at h
  dsimp only at h
  split at h
  · cases h
  rename_i hfirst
  split at h
  · cases h
  rename_i tail hword
  split at h
  · cases h
  rename_i hlast
  obtain ⟨init, b, htext, -, hb⟩ := exists_blanks hfirst
  obtain ⟨word, hrest, hword⟩ := afterLetters?_eq_some_iff.1 hword
  obtain ⟨between, c, htail, hbetween, hc⟩ := exists_blanks hlast
  generalize tail.dropWhile isBlank = after at h htail
  rw [hrest, htail] at htext
  cases h
  refine ⟨?_, rfl, init ++ b :: (word ++ between), c, after, by rw [htext]; simp, hc, ?_⟩
  · -- the first blank behind the word, of those that are used up
    cases between with
    | nil => exact ⟨init, b, word, c, after, htext, hb, hword, hc⟩
    | cons d between =>
      exact ⟨init, b, word, d, between ++ c :: after, htext, hb, hword,
        hbetween d (List.mem_cons_self ..)⟩
  · rw [htext]
    simp only [List.length_append, List.length_cons]
    omega

/-- The word is found where the blank before it is looked at. -/
theorem exists_dropAs {b c : Char} {word after : List Char} (hb : isBlank b = true)
    (hword : afterLetters? ['A', 'S'] word = some []) (hc : isBlank c = true) :
    ∃ found, dropAs (b :: (word ++ c :: after)) = some found := by
  obtain ⟨d, hd, hsolid⟩ := head?_as hword
  obtain ⟨letters, rfl⟩ := List.head?_eq_some_iff.1 hd
  have hfirst : (b :: (d :: letters ++ c :: after)).dropWhile isBlank =
      d :: letters ++ c :: after := by
    rw [List.dropWhile_cons_of_pos hb, List.cons_append,
      List.dropWhile_cons_of_neg (Bool.eq_false_iff.1 hsolid)]
  have hafter : afterLetters? ['A', 'S'] (d :: letters ++ c :: after) = some (c :: after) :=
    afterLetters?_eq_some_iff.2 ⟨d :: letters, rfl, hword⟩
  have hlength : (after.dropWhile isBlank).length ≤ after.length :=
    (List.dropWhile_sublist isBlank).length_le
  unfold dropAs
  dsimp only
  rw [hfirst, if_neg (by simp), hafter]
  dsimp only
  rw [List.dropWhile_cons_of_pos hc, if_neg (by simp only [List.length_cons]; omega)]
  exact ⟨_, rfl⟩

/-! ## The text without the word -/

/-- A character stays where the rule does not apply. Where it does, a space comes instead of what
ends in a blank. -/
theorem replaceBy_dropAs_cases (cs : List Char) :
    cs = [] ∨
    (∃ c rest, cs = c :: rest ∧ dropAs cs = none ∧
      replaceBy dropAs cs = c :: replaceBy dropAs rest) ∨
    ∃ lead c after, cs = lead ++ c :: after ∧ isBlank c = true ∧ HasAs cs ∧
      replaceBy dropAs cs = ' ' :: replaceBy dropAs after := by
  cases cs with
  | nil => exact .inl rfl
  | cons c rest =>
    cases hrule : dropAs (c :: rest) with
    | none =>
      refine .inr (.inl ⟨c, rest, rfl, rfl, ?_⟩)
      rw [replaceBy, replaceFrom, hrule]
      rfl
    | some found =>
      obtain ⟨has, htext, lead, d, after, hcs, hd, hlength⟩ := dropAs_eq_some hrule
      refine .inr (.inr ⟨lead, d, after, hcs, hd, has, ?_⟩)
      have hafter : rest.drop lead.length = after := by
        have hdrop := congrArg (List.drop (lead.length + 1)) hcs
        rwa [List.drop_succ_cons, List.drop_length_add_append] at hdrop
      obtain ⟨length, text⟩ := found
      obtain rfl : text = [' '] := htext
      obtain rfl : length = lead.length + 1 := hlength
      rw [replaceBy, replaceFrom, hrule]
      dsimp only
      rw [replaceFrom_eq_drop, hafter]
      rfl

/-- Where there is no gap afterwards, nothing was replaced. -/
theorem replaceBy_dropAs_of_no_gap {cs : List Char} (h : ¬HasGap (replaceBy dropAs cs)) :
    replaceBy dropAs cs = cs := by
  induction cs with
  | nil => rfl
  | cons c rest ih =>
    rcases replaceBy_dropAs_cases (c :: rest) with hnil | ⟨d, tail, hcs, -, hresult⟩ |
      ⟨lead, d, after, -, -, -, hresult⟩
    · cases hnil
    · cases hcs
      rw [hresult, hasGap_cons] at h
      rw [hresult, ih (not_or.1 h).2]
    · rw [hresult] at h
      exact absurd (hasGap_cons.2 (.inl (.inl rfl))) h

/-- A place where nothing is found is not that of the word. -/
theorem hasAs_cons_iff {c : Char} {rest : List Char} (h : dropAs (c :: rest) = none) :
    HasAs (c :: rest) ↔ HasAs rest := by
  refine ⟨?_, fun has => has.mono (List.suffix_cons c rest)⟩
  rintro ⟨before, b, word, d, after, htext, hb, hword, hd⟩
  cases before with
  | nil =>
    obtain ⟨found, hfound⟩ := exists_dropAs hb hword hd
    rw [htext, List.nil_append, hfound] at h
    cases h
  | cons e before => exact ⟨before, b, word, d, after, (List.cons.inj htext).2, hb, hword, hd⟩

/-- There is a gap afterwards if there was one before, or the word. -/
theorem hasGap_replaceBy_dropAs_iff {cs : List Char} :
    HasGap (replaceBy dropAs cs) ↔ HasGap cs ∨ HasAs cs := by
  induction cs with
  | nil =>
    have has : ¬HasAs [] := fun ⟨before, _, _, _, _, htext, _⟩ =>
      List.append_ne_nil_of_right_ne_nil before (List.cons_ne_nil _ _) htext.symm
    exact (or_iff_left has).symm
  | cons c rest ih =>
    rcases replaceBy_dropAs_cases (c :: rest) with hnil | ⟨d, tail, hcs, hnone, hresult⟩ |
      ⟨lead, d, after, -, -, has, hresult⟩
    · cases hnil
    · cases hcs
      rw [hresult, hasGap_cons, hasGap_cons, hasAs_cons_iff hnone, ih]
      exact or_assoc.symm
    · rw [hresult]
      exact iff_of_true (hasGap_cons.2 (.inl (.inl rfl))) (.inr has)

/-- What follows the last gap afterwards follows a blank before. -/
theorem exists_blank_of_last_gap {cs start rest : List Char} {g : Char} (hg : g = ' ' ∨ g = '\t')
    (hrest : ¬HasGap rest) (h : replaceBy dropAs cs = start ++ g :: rest) :
    ∃ before b, cs = before ++ b :: rest ∧ isBlank b = true := by
  -- on the length of the text, as what is replaced is left out at once
  induction hn : cs.length using Nat.strongRecOn generalizing cs start with
  | ind n ih =>
    subst hn
    rcases replaceBy_dropAs_cases cs with rfl | ⟨c, tail, rfl, -, hresult⟩ |
      ⟨lead, c, after, rfl, hc, -, hresult⟩
    · exact absurd h.symm (List.append_ne_nil_of_right_ne_nil start (List.cons_ne_nil _ _))
    · rw [hresult] at h
      cases start with
      | nil =>
        obtain ⟨rfl, htail⟩ := List.cons.inj h
        rw [← htail] at hrest ⊢
        rw [replaceBy_dropAs_of_no_gap hrest]
        exact ⟨[], c, rfl, isBlank_of_gap hg⟩
      | cons d start =>
        obtain ⟨before, b, rfl, hb⟩ := ih tail.length (Nat.lt_succ_self _) (List.cons.inj h).2 rfl
        exact ⟨c :: before, b, rfl, hb⟩
    · rw [hresult] at h
      cases start with
      | nil =>
        have hafter := (List.cons.inj h).2
        rw [← hafter] at hrest ⊢
        rw [replaceBy_dropAs_of_no_gap hrest]
        exact ⟨lead, c, rfl, hc⟩
      | cons d start =>
        have hshorter : after.length < (lead ++ c :: after).length := by simp; omega
        obtain ⟨before, b, rfl, hb⟩ := ih after.length hshorter (List.cons.inj h).2 rfl
        exact ⟨lead ++ c :: before, b, by simp, hb⟩

/-! ## The two routines -/

/-- The alias follows a blank, the last gap or a blank behind the word. -/
theorem exists_alias {table : String} (h : HasGap (trim table.toList) ∨ HasAs (trim table.toList)) :
    ∃ before b name, alias? table = some name ∧ trim table.toList = before ++ b :: name.toList ∧
      isBlank b = true ∧ ¬HasGap name.toList := by
  obtain ⟨start, g, rest, hreplaced, hg, hrest⟩ := (hasGap_replaceBy_dropAs_iff.2 h).exists_last
  obtain ⟨before, b, htext, hb⟩ := exists_blank_of_last_gap hg hrest hreplaced
  obtain ⟨front, hfront⟩ := squeezeGapsFrom_last_gap hg hrest start false
  have hsqueezed : squeezeGaps (replaceBy dropAs (trim table.toList)) = front ++ ' ' :: rest := by
    rw [hreplaced]
    exact hfront
  have hafter : afterLast? ' ' (front ++ ' ' :: rest) = some rest :=
    afterLast?_append (fun hmem => hrest ⟨' ', hmem, .inl rfl⟩) front
  cases rest with
  | nil =>
    -- the trimmed text does not end in a blank
    have hlast := isBlank_of_getLast?_trim (c := b) (by rw [htext, List.getLast?_concat])
    rw [hb] at hlast
    cases hlast
  | cons c cs =>
    refine ⟨before, b, String.ofList (c :: cs), ?_, ?_, hb, ?_⟩
    · unfold alias?
      dsimp only
      rw [hsqueezed, hafter]
    · rw [String.toList_ofList, htext]
    · rwa [String.toList_ofList]

theorem alias?_eq_none {table : String}
    (h : ¬(HasGap (trim table.toList) ∨ HasAs (trim table.toList))) : alias? table = none := by
  have hspace : ' ' ∉ squeezeGaps (replaceBy dropAs (trim table.toList)) := by
    rwa [space_mem_squeezeGaps_iff, hasGap_replaceBy_dropAs_iff]
  unfold alias?
  dsimp only
  rw [afterLast?, if_neg hspace]

theorem isSome_alias?_iff {table : String} :
    (alias? table).isSome = true ↔ HasGap (trim table.toList) ∨ HasAs (trim table.toList) := by
  by_cases h : HasGap (trim table.toList) ∨ HasAs (trim table.toList)
  · obtain ⟨_, _, name, hname, -⟩ := exists_alias h
    exact iff_of_true (by rw [hname]; rfl) h
  · rw [alias?_eq_none h]
    exact iff_of_false Bool.false_ne_true h

namespace Rules

theorem cut_ne_nil_iff {text : List Char} : (cut text).2 ≠ [] ↔ HasGap (trim text) := by
  rw [← space_mem_squeezeGaps_iff, cut, breakAt, Ne, List.dropWhile_eq_nil_iff]
  simp

/-- What is split off ends in what follows a blank and has no gap itself. -/
theorem exists_cut_eq {text before rest : List Char} {b : Char} (hsplit : (cut text).2 ≠ [])
    (htext : trim text = before ++ b :: rest) (hb : isBlank b = true) (hrest : ¬HasGap rest) :
    ∃ front sep, isBlank sep = true ∧ (cut text).2 = front ++ sep :: rest := by
  obtain ⟨start, sep, hsep, hsqueezed⟩ := squeezeGaps_after_blank hb hrest before
  suffices hsuffix : sep :: rest <:+ (cut text).2 by
    obtain ⟨front, hfront⟩ := hsuffix
    exact ⟨front, sep, hsep, hfront.symm⟩
  have htail : (cut text).2 <:+ start ++ sep :: rest := by
    rw [cut, htext, hsqueezed]
    exact List.dropWhile_suffix _
  rcases List.suffix_or_suffix_of_suffix (List.suffix_append start (sep :: rest)) htail with h | h
  · exact h
  rcases List.suffix_cons_iff.1 h with heq | hinside
  · exact heq ▸ List.suffix_rfl
  · -- what is split off begins with a space, which would be a gap in the rest
    obtain ⟨c, more, hcut⟩ := List.exists_cons_of_ne_nil hsplit
    have hspace : c = ' ' := head?_breakAt_snd (congrArg List.head? hcut)
    have hmem : c ∈ rest := hinside.subset (hcut ▸ List.mem_cons_self ..)
    exact absurd ⟨c, hmem, .inl hspace⟩ hrest

/-- **The alias and the part split off.** Protection puts back what is split off, which is something
where there is a gap. There is an alias in the same cases, unless the word AS is found between other
blanks only. Where something is split off, it ends in the alias, with a blank before it. -/
theorem alias_split_off (r : Rules) (u : Use) (table : String) :
    let text := trim table.toList
    let tail := (cut table.toList).2
    (r.protect u table).toList =
        r.protectWord u (u.quoting.getD r.quoting) (cut table.toList).1 ++ tail ∧
      (tail ≠ [] ↔ HasGap text) ∧
      (((alias? table).isSome = true ↔ tail ≠ []) ↔ (HasAs text → HasGap text)) ∧
      (tail ≠ [] → ∃ name before sep, alias? table = some name ∧ isBlank sep = true ∧
        tail = before ++ sep :: name.toList) := by
  intro text tail
  refine ⟨?_, cut_ne_nil_iff, ?_, fun hsplit => ?_⟩
  · rw [protect, String.toList_ofList, protectChars_eq]
  · rw [isSome_alias?_iff, cut_ne_nil_iff]
    exact or_iff_left_iff_imp
  · obtain ⟨before, b, name, hname, htext, hb, hgap⟩ :=
      exists_alias (.inl (cut_ne_nil_iff.1 hsplit))
    obtain ⟨front, sep, hsep, htail⟩ := exists_cut_eq hsplit htext hb hgap
    exact ⟨name, front, sep, hname, hsep, htail⟩

/-- A tab before the table's alias, and line breaks around the word before another one. -/
theorem alias_split_off_tab :
    let r : Rules := ⟨"app_", "", some '\u0060', true⟩
    let table := " users\tu\nas\nv"
    (cut table.toList).2 ≠ [] ∧ alias? table = some "v" ∧
      r.protect .table table = "`app_users` u\nas\nv" ∧
      ∃ name before sep, alias? table = some name ∧ isBlank sep = true ∧
        (cut table.toList).2 = before ++ sep :: name.toList := by
  intro r table
  have hsplit : (cut table.toList).2 ≠ [] := by decide +kernel
  obtain ⟨-, -, -, hends⟩ := alias_split_off r .table table
  exact ⟨hsplit, by decide +kernel, by decide +kernel, hends hsplit⟩

/-- Line breaks around the word are enough for an alias, but nothing is split off: the alias becomes
a part of the name in quotes. -/
theorem alias_split_off_lines :
    let r : Rules := ⟨"app_", "", some '\u0060', true⟩
    let table := "users\nAS\nu"
    alias? table = some "u" ∧ (cut table.toList).2 = [] ∧
      ¬((alias? table).isSome = true ↔ (cut table.toList).2 ≠ []) ∧
      r.protect .table table = "`app_users\nAS\nu`" ∧
      r.protect .table "users AS u" = "`app_users` AS u" := by
  decide +kernel

end Rules

end Identifier

end SqlGateway

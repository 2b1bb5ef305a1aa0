import SqlGateway.Proofs.Sql.SegmentQuotes

/-!
# Quotes at the ends of a name

Quoting a name drops the double quotes that come up, so quotes at the ends of the name are lost in
those that are put around it. Quotes in the middle stay. So a name is quoted in the same way with and
without its own quotes exactly if they are all at its ends.

Main definition:

* `Identifier.Rules.PlainName`: a name that protection does nothing to but for its quotes.

Main results:

* `Identifier.Rules.quoteChars_eq_iff`: which names are quoted in the same way with and without
  their quotes.
* `Identifier.Rules.protect_plain`: the quotes are dropped before the name is quoted.
-/

namespace SqlGateway

/-! ## Runs at the ends -/

namespace Chars

section

variable {q : Char}

theorem getLast?_squeezeChar (cs : List Char) : (squeezeChar q cs).getLast? = cs.getLast? := by
  have hlast (c : Char) {as bs : List Char} (h : as.getLast? = bs.getLast?) :
      (c :: as).getLast? = (c :: bs).getLast? := by
    rw [List.getLast?_cons, List.getLast?_cons, h]
  fun_induction squeezeChar q cs with
  | case1 => rfl
  | case2 c => rfl
  | case3 c d cs hcd ih => rw [ih, List.getLast?_cons_cons]
  | case4 c d cs hcd ih => exact hlast c ih

theorem squeezeChar_replicate (n : Nat) : squeezeChar q (List.replicate (n + 1) q) = [q] := by
  induction n with
  | zero => rfl
  | succ n ih =>
    rw [List.replicate_succ, List.replicate_succ, squeezeChar, if_pos ⟨rfl, rfl⟩,
      ← List.replicate_succ, ih]

/-- A run at the end becomes a single one. -/
theorem squeezeChar_append_replicate {cs : List Char} (h : q ∉ cs) (n : Nat) :
    squeezeChar q (cs ++ List.replicate (n + 1) q) = cs ++ [q] := by
  induction cs with
  | nil => exact squeezeChar_replicate n
  | cons c cs ih =>
    obtain ⟨hc, hcs⟩ := List.ne_and_not_mem_of_not_mem_cons h
    rw [List.cons_append, squeezeChar_cons_of_ne hc.symm, ih hcs, List.cons_append]

/-- So do the runs at both ends, if something is between them. -/
theorem squeezeChar_between {core : List Char} (hcore : q ∉ core) (hne : core ≠ []) (m n : Nat) :
    squeezeChar q (List.replicate (m + 1) q ++ core ++ List.replicate (n + 1) q) =
      q :: core ++ [q] := by
  match core, hne with
  | c :: core, _ =>
    obtain ⟨hc, hrest⟩ := List.ne_and_not_mem_of_not_mem_cons hcore
    rw [List.append_assoc, List.cons_append, squeezeChar_append hc.symm, squeezeChar_replicate,
      squeezeChar_append_replicate hrest]
    rfl

theorem prefix_of_prefix_squeezeChar {piece cs : List Char} (hpiece : q ∉ piece)
    (h : piece <+: squeezeChar q cs) : piece <+: cs := by
  induction piece generalizing cs with
  | nil => exact List.nil_prefix
  | cons c piece ih =>
    obtain ⟨hc, hpiece⟩ := List.ne_and_not_mem_of_not_mem_cons hpiece
    have hhead : cs.head? = some c := by
      obtain ⟨rest, hrest⟩ := h
      rw [← head?_squeezeChar q, ← hrest]
      rfl
    obtain ⟨cs, rfl⟩ := List.head?_eq_some_iff.1 hhead
    rw [squeezeChar_cons_of_ne hc.symm, List.cons_prefix_cons] at h
    exact List.cons_prefix_cons.2 ⟨rfl, ih hpiece h.2⟩

/-- A stretch without the character was there before runs of it were squeezed. -/
theorem infix_of_infix_squeezeChar {piece cs : List Char} (hpiece : q ∉ piece)
    (h : piece <:+: squeezeChar q cs) : piece <:+: cs := by
  fun_induction squeezeChar q cs with
  | case1 => exact h
  | case2 c => exact h
  | case3 c d cs hcd ih => exact (ih h).trans (List.suffix_cons c _).isInfix
  | case4 c d cs hcd ih =>
    rcases List.infix_cons_iff.1 h with hfirst | hlater
    · refine (prefix_of_prefix_squeezeChar hpiece ?_).isInfix
      rwa [squeezeChar, if_neg hcd]
    · exact (ih hlater).trans (List.suffix_cons c _).isInfix

end

end Chars

/-! ## Quotes at the ends of a name -/

namespace Identifier.Rules

section

variable {r : Rules} {q : Char} {name : List Char}

theorem strip_of_quote (hquote : r.quote = some q) (cs : List Char) :
    r.strip cs = cs.filter (· ≠ q) := by
  unfold strip
  rw [hquote]

/-- A name in quotes has what is left of the name without quotes, and a quote on both sides. -/
theorem sublist_quoted (hne : name.filter (· ≠ q) ≠ []) :
    (q :: name.filter (· ≠ q) ++ [q]).Sublist (quoted q name) := by
  have hfilter : (quoted q name).filter (· ≠ q) = name.filter (· ≠ q) := by
    unfold quoted
    rw [Chars.filter_squeezeChar (by simp)]
    simp
  have hlast : (quoted q name).getLast? = some q := by
    unfold quoted
    rw [Chars.getLast?_squeezeChar, List.getLast?_concat]
  -- the quotes at the two ends are not the same one, as there is something between them
  obtain ⟨rest, hrest⟩ := List.head?_eq_some_iff.1 (head?_quoted q name)
  rw [hrest] at hfilter hlast ⊢
  rcases List.eq_nil_or_concat' rest with rfl | ⟨inner, last, rfl⟩
  · exact absurd (hfilter.symm.trans (by simp)) hne
  · rw [← List.cons_append, List.getLast?_concat] at hlast
    obtain rfl := Option.some_inj.1 hlast
    have hinner : inner.filter (· ≠ last) = name.filter (· ≠ last) := by
      rw [← hfilter]
      simp
    rw [← hinner]
    exact (List.filter_sublist.append_right [last]).cons_cons last

/-- A name gets the same quotes as what is left of it without quotes, if that is one piece of it:
its quotes are all at its ends. -/
theorem quoted_eq_iff (hne : name.filter (· ≠ q) ≠ []) :
    quoted q name = quoted q (name.filter (· ≠ q)) ↔ name.filter (· ≠ q) <:+: name := by
  have hclean : q ∉ name.filter (· ≠ q) := by simp
  rw [quoted_of_ne_nil hne hclean]
  constructor
  · intro heq
    have hinfix : name.filter (· ≠ q) <:+: q :: name ++ [q] := by
      refine Chars.infix_of_infix_squeezeChar hclean ?_
      rw [show Chars.squeezeChar q (q :: name ++ [q]) = _ from heq]
      exact ⟨[q], [q], rfl⟩
    -- the quotes that were added are no part of it
    rw [List.cons_append, List.infix_cons_iff] at hinfix
    rcases hinfix with ⟨rest, hfirst⟩ | hinfix
    · refine absurd (?_ : q ∈ name.filter (· ≠ q)) hclean
      match hname : name.filter (· ≠ q), hne with
      | c :: _, _ =>
        rw [hname] at hfirst
        obtain ⟨rfl, -⟩ := List.cons.inj hfirst
        exact List.mem_cons_self ..
    rcases List.infix_concat_iff.1 hinfix with hlast | hinfix
    · refine absurd (?_ : q ∈ name.filter (· ≠ q)) hclean
      rcases List.suffix_concat_iff.1 hlast with hnil | ⟨inner, hinner, -⟩
      · exact absurd hnil hne
      · rw [hinner]
        simp
    · exact hinfix
  · rintro ⟨before, after, hname⟩
    have hcount := congrArg List.length (congrArg (List.filter (· ≠ q)) hname)
    simp only [List.filter_append, List.filter_filter, List.length_append, Bool.and_self] at hcount
    have hquotes {cs : List Char} (h : (cs.filter (· ≠ q)).length = 0) :
        cs = List.replicate cs.length q := by
      refine List.eq_replicate_iff.2 ⟨rfl, fun c hc => ?_⟩
      have := List.filter_eq_nil_iff.1 (List.length_eq_zero_iff.1 h) c hc
      simpa using this
    have hbefore : before = List.replicate before.length q := hquotes (by omega)
    have hafter : after = List.replicate after.length q := hquotes (by omega)
    have hsplit : q :: name ++ [q] = List.replicate (before.length + 1) q ++
        name.filter (· ≠ q) ++ List.replicate (after.length + 1) q := by
      rw [List.replicate_succ, List.replicate_succ', ← hbefore, ← hafter]
      simp only [List.cons_append, ← List.append_assoc, hname]
    unfold quoted
    rw [hsplit, Chars.squeezeChar_between hclean hne]

end

/-! ### Plain names -/

/-- A name that is no path, no expression and no star, and has no stand-in for the prefix. Only its
quotes can be dropped. -/
structure PlainName (r : Rules) (name : List Char) : Prop where
  left : r.strip name ≠ []
  solid : ∀ c ∈ name, Chars.isBlank c = false ∧ c ≠ '.' ∧ c ≠ '(' ∧ c ≠ '*'
  swaps : ¬r.Swaps name ∧ ¬r.Swaps (r.strip name)

section

variable {r : Rules} {name : List Char}

theorem PlainName.quoteChars_eq {q : Char} (h : r.PlainName name) (hquote : r.quote = some q) :
    r.quoteChars name = quoted q name := by
  have hdot : '.' ∉ name := fun hmem => (h.solid _ hmem).2.1 rfl
  have hstar : name ≠ ['*'] := by
    rintro rfl
    exact (h.solid '*' (List.mem_singleton_self _)).2.2.2 rfl
  unfold quoteChars
  rw [hquote]
  exact quoteSegments_name hdot hstar

/-- What is left of a plain name is plain. -/
theorem PlainName.strip (h : r.PlainName name) : r.PlainName (r.strip name) where
  left := by
    rw [r.strip_strip]
    exact h.left
  solid c hc := h.solid c (mem_strip.1 hc).1
  swaps := by
    rw [r.strip_strip]
    exact ⟨h.swaps.2, h.swaps.2⟩

/-- A plain name is quoted in the same way without its quotes exactly if they are all at its
ends. -/
theorem quoteChars_eq_iff (h : r.PlainName name) :
    r.quoteChars (r.strip name) = r.quoteChars name ↔ r.strip name <:+: name := by
  cases hquote : r.quote with
  | none =>
    have hsame : r.strip name = name := strip_eq_self_iff.2 fun c _ hc => by
      rw [hquote] at hc
      cases hc
    rw [hsame]
    exact iff_of_true rfl List.infix_rfl
  | some q =>
    rw [h.quoteChars_eq hquote, h.strip.quoteChars_eq hquote, eq_comm]
    have hleft := h.left
    rw [strip_of_quote hquote] at hleft ⊢
    exact quoted_eq_iff hleft

/-- Without its quotes a plain name is quoted to the same text or to a shorter one. -/
theorem sublist_quoteChars (h : r.PlainName name) :
    (r.quoteChars (r.strip name)).Sublist (r.quoteChars name) := by
  cases hquote : r.quote with
  | none =>
    unfold quoteChars Rules.strip
    rw [hquote]
  | some q =>
    have hleft := h.left
    rw [h.quoteChars_eq hquote, h.strip.quoteChars_eq hquote]
    rw [strip_of_quote hquote] at hleft ⊢
    rw [quoted_of_ne_nil hleft (by simp)]
    exact sublist_quoted hleft

/-- Protection drops the quotes of a plain name and puts quotes around it. -/
theorem protect_plain (h : r.PlainName name) (aliases : List String) :
    r.protect ⟨aliases, false, some true, true⟩ (String.ofList name) =
      String.ofList (r.quoteChars (r.strip name)) := by
  have hsolid : ∀ c ∈ name, Chars.isBlank c = false := fun c hc => (h.solid c hc).1
  have htidy : Chars.squeezeGaps (Chars.trim name) = name := by
    refine Chars.Tidy.squeezeGaps_trim ⟨?_, fun c hc => ?_, fun c hc => ?_⟩
    · simpa [Chars.squeezeGaps, Chars.squeezeGapsFrom] using Chars.squeezeGaps_word_append hsolid []
    · exact hsolid c (List.mem_of_mem_head? hc)
    · exact hsolid c (List.mem_of_getLast? hc)
  have hcut : cut name = (name, []) := by
    have hspace : ' ' ∉ name := fun hmem => absurd (hsolid ' ' hmem) (by decide)
    have hbreak : Chars.breakAt ' ' (name ++ []) = (name, []) :=
      Chars.breakAt_word_append hspace (by simp)
    rw [List.append_nil] at hbreak
    unfold cut
    rw [htidy, hbreak]
  have hparen : '(' ∉ name := fun hmem => (h.solid _ hmem).2.2.1 rfl
  have hdot : '.' ∉ name := fun hmem => (h.solid _ hmem).2.1 rfl
  have hbare : r.bareName ⟨aliases, false, some true, true⟩ (r.strip name) = r.strip name := by
    refine if_neg fun hprefixed => ?_
    rcases hprefixed.2 with hswap | htable
    · exact h.swaps.2 (swaps_iff.2 hswap)
    · cases htable
  have hstar : r.strip name ≠ ['*'] := by
    intro hstar
    have hmem : '*' ∈ r.strip name := by simp [hstar]
    exact (h.solid '*' (mem_strip.1 hmem).1).2.2.2 rfl
  unfold protect
  rw [String.toList_ofList, protectChars_eq, hcut, List.append_nil]
  unfold protectWord
  rw [if_neg hparen, if_neg hdot, protectName_eq, hbare]
  exact congrArg String.ofList (if_pos ⟨rfl, hstar⟩)

end

end Identifier.Rules

end SqlGateway

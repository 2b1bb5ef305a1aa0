import SqlGateway.Proofs.Sql.Quoting

/-!
# Quotes put on twice

Runs of quotes are collapsed in rounds after quotes have been put around a path, so no two quotes
stand side by side afterwards. Quoting the result once more puts its quotes next to those that are
there: around each segment, or where a star follows a segment, at the same ends as before. Each of
them makes a run that is collapsed again.

Main results:

* `Identifier.Rules.quoteSegments_quoteSegments`: quotes that are put on twice are put on once.
* `Identifier.Rules.quotes_collapse`: the rounds end, what they leave, and what this makes of quoted
  identifiers.
-/

namespace SqlGateway.Identifier.Rules

/-! ## Segments -/

section

variable {q : Char}

/-- A name with a quote at its end alone. -/
def closed (q : Char) (name : List Char) : List Char :=
  Chars.squeezeChar q (name ++ [q])

theorem closed_closed (q : Char) (name : List Char) : closed q (closed q name) = closed q name := by
  have hrun : Chars.squeezeChar q [q, q] = [q] := Chars.squeezeChar_pair q []
  calc closed q (closed q name)
      = Chars.squeezeChar q (name ++ [q, q]) := by
        unfold closed
        rw [Chars.squeezeChar_squeezeChar_append, List.append_assoc]
        rfl
    _ = closed q name := by rw [← Chars.squeezeChar_append_squeezeChar, hrun, closed]

theorem quoted_quoted (q : Char) (name : List Char) : quoted q (quoted q name) = quoted q name := by
  -- the run in front is the one that closing the name again leaves
  have hfront (cs : List Char) : closed q (q :: closed q (q :: cs)) = closed q (q :: cs) := by
    have hclosed := closed_closed q (q :: cs)
    unfold closed at hclosed ⊢
    rw [List.cons_append, ← Chars.squeezeChar_cons_squeezeChar, hclosed,
      Chars.squeezeChar_cons_squeezeChar]
    exact Chars.squeezeChar_pair q _
  exact hfront name

theorem dot_not_mem_closed (hq : q ≠ '.') {name : List Char} (hdot : '.' ∉ name) :
    '.' ∉ closed q name := by
  rw [closed, Chars.mem_squeezeChar]
  simp [hq.symm, hdot]

theorem dot_not_mem_quoted (hq : q ≠ '.') {name : List Char} (hdot : '.' ∉ name) :
    '.' ∉ quoted q name :=
  dot_not_mem_closed hq (List.not_mem_cons_of_ne_of_not_mem hq.symm hdot)

theorem head?_closed {name : List Char} (hne : name ≠ []) : (closed q name).head? = name.head? := by
  rw [closed, Chars.head?_squeezeChar, List.head?_append_of_ne_nil _ hne]

end

/-! ## Paths -/

section

variable {q : Char} (hq : q ≠ '.')
include hq

/-- The segments of a path with a star keep their stars, so the same ends get quotes again. -/
theorem quoteSegments_twice_starred {first last : List Char} {middle : List (List Char)}
    (hdot : ∀ part ∈ first :: middle ++ [last], '.' ∉ part)
    (hstar : ∃ part ∈ middle ++ [last], part.head? = some '*') :
    quoteSegments q (quoteSegments q (path (first :: middle ++ [last]))) =
      quoteSegments q (path (first :: middle ++ [last])) := by
  have hquotes {first last : List Char} (middle : List (List Char))
      (hdot : ∀ part ∈ first :: middle ++ [last], '.' ∉ part)
      (hstar : ∃ part ∈ middle ++ [last], part.head? = some '*') :
      quoteSegments q (path (first :: middle ++ [last])) =
        path (quoted q first :: middle.map (closed q) ++ [Chars.squeezeChar q last]) :=
    quoteSegments_starred hq middle hdot hstar
  have hnodot : ∀ part ∈ quoted q first :: middle.map (closed q) ++ [Chars.squeezeChar q last],
      '.' ∉ part := by
    obtain ⟨hfirst, hrest⟩ := List.forall_mem_cons.1 hdot
    obtain ⟨hmiddle, hlast⟩ := List.forall_mem_append.1 hrest
    refine List.forall_mem_cons.2 ⟨dot_not_mem_quoted hq hfirst, List.forall_mem_append.2 ⟨?_, ?_⟩⟩
    · exact List.forall_mem_map.2 fun name hname => dot_not_mem_closed hq (hmiddle name hname)
    · rw [List.forall_mem_singleton, Chars.mem_squeezeChar]
      exact hlast last (List.mem_singleton_self last)
  have hstays : ∃ part ∈ middle.map (closed q) ++ [Chars.squeezeChar q last],
      part.head? = some '*' := by
    obtain ⟨part, hpart, hhead⟩ := hstar
    have hne : part ≠ [] := fun h => by rw [h] at hhead; cases hhead
    rcases List.mem_append.1 hpart with hmiddle | hlast
    · exact ⟨closed q part, List.mem_append_left _ (List.mem_map_of_mem hmiddle),
        (head?_closed hne).trans hhead⟩
    · cases List.mem_singleton.1 hlast
      exact ⟨_, List.mem_append_right _ (List.mem_singleton_self _),
        (Chars.head?_squeezeChar q last).trans hhead⟩
  have hmiddle : (middle.map (closed q)).map (closed q) = middle.map (closed q) := by
    rw [List.map_map]
    exact List.map_congr_left fun name _ => closed_closed q name
  rw [hquotes middle hdot hstar, hquotes _ hnodot hstays, quoted_quoted, hmiddle,
    Chars.squeezeChar_squeezeChar]

/-- Without such a star each segment has its quotes, and gets them again. -/
theorem quoteSegments_twice_path (hqstar : q ≠ '*') {parts : List (List Char)} (hne : parts ≠ [])
    (hdot : ∀ part ∈ parts, '.' ∉ part) (hbare : parts ≠ [['*']])
    (hstars : ∀ part ∈ parts.tail, part.head? ≠ some '*') :
    quoteSegments q (quoteSegments q (path parts)) = quoteSegments q (path parts) := by
  have hstarless : ∀ part ∈ parts.map (quoted q), part.head? ≠ some '*' :=
    List.forall_mem_map.2 fun name _ => by
      rw [head?_quoted]
      exact fun h => hqstar (Option.some.inj h)
  have hbareQuoted : parts.map (quoted q) ≠ [['*']] := fun h =>
    hstarless ['*'] (h ▸ List.mem_singleton_self _) rfl
  rw [quoteSegments_path hq hne hdot hbare hstars,
    quoteSegments_path hq (List.map_eq_nil_iff.not.2 hne)
      (List.forall_mem_map.2 fun name hname => dot_not_mem_quoted hq (hdot name hname)) hbareQuoted
      fun part hpart => hstarless part (List.mem_of_mem_tail hpart),
    List.map_map]
  exact congrArg path (List.map_congr_left fun name _ => quoted_quoted q name)

/-- Quotes that are put on twice are put on once. -/
theorem quoteSegments_quoteSegments (hqstar : q ≠ '*') (item : List Char) :
    quoteSegments q (quoteSegments q item) = quoteSegments q item := by
  by_cases hbare : item = ['*']
  · have hkept : quoteSegments q ['*'] = ['*'] := if_pos rfl
    rw [hbare, hkept, hkept]
  obtain ⟨parts, hne, hdot, rfl⟩ : ∃ parts, parts ≠ [] ∧ (∀ part ∈ parts, '.' ∉ part) ∧
      path parts = item :=
    ⟨Chars.splitOn '.' item, Chars.splitOn_ne_nil '.' item,
      fun part hpart => Chars.not_mem_of_mem_splitOn hpart, Chars.intercalate_splitOn '.' item⟩
  by_cases hstars : ∃ part ∈ parts.tail, part.head? = some '*'
  · obtain ⟨first, middle, last, rfl⟩ := exists_first_last hstars
    exact quoteSegments_twice_starred hq hdot hstars
  · exact quoteSegments_twice_path hq hqstar hne hdot (fun h => hbare (path_eq_star_iff.2 h))
      fun part hpart hhead => hstars ⟨part, hpart, hhead⟩

end

/-! ## Quoted identifiers -/

theorem no_pair_quoteSegments (q : Char) (item : List Char) :
    ¬[q, q] <:+: quoteSegments q item := by
  rw [quoteSegments_eq]
  split
  · rename_i hstar
    intro hpair
    have hlength := hpair.length_le
    rw [hstar] at hlength
    exact absurd hlength (Nat.not_succ_le_self 1)
  · rw [← Chars.occursIn_pair_iff_infix, Chars.no_pair_squeezeChar]
    exact Bool.false_ne_true

/-- **Quotes are collapsed.** Whatever the character and the text, the rounds that replace its pairs
end: there are as many as it takes until no pair is left. What is left is the text with each longest
run of the character as a single one, and nothing else changed. So no two quotes of a quoted
identifier stand side by side, and unless the quote is a dot or a star, one that is quoted already
stays as it is. -/
theorem quotes_collapse :
    (∀ (q : Char) (cs : List Char),
      (∃ n, Chars.collapse q cs = (Chars.replacePairs q)^[n] cs ∧
        ∀ m ≤ n, Chars.occursIn [q, q] ((Chars.replacePairs q)^[m] cs) = true ↔ m < n) ∧
      ∀ ds, Chars.Squeezed q cs ds ↔ ds = Chars.collapse q cs) ∧
    ∀ (r : Rules) (q : Char) (item : String), r.quote = some q →
      ¬[q, q] <:+: (r.quoteName item).toList ∧
      (q ≠ '.' → q ≠ '*' → r.quoteName (r.quoteName item) = r.quoteName item) := by
  refine ⟨fun q cs => ⟨Chars.exists_rounds q cs, fun ds => ?_⟩, fun r q item hquote => ?_⟩
  · rw [Chars.collapse_eq_squeezeChar]
    exact Chars.squeezed_iff
  · have hquoted (item : String) :
        (r.quoteName item).toList = quoteSegments q item.toList := by
      rw [quoteName, String.toList_ofList, quoteChars, hquote]
    refine ⟨?_, fun hdot hstar => String.toList_inj.1 ?_⟩
    · rw [hquoted]
      exact no_pair_quoteSegments q item.toList
    · rw [hquoted, hquoted, quoteSegments_quoteSegments hdot hstar]

/-- Five quotes are one after three rounds. A path of quoted segments gets no more quotes. -/
theorem quotes_collapse_five :
    let r : Rules := ⟨"", "", some '\u0060', true⟩
    Chars.Squeezed '\u0060' "a`````b".toList "a`b".toList ∧
      Chars.collapse '\u0060' "a`````b".toList =
        (Chars.replacePairs '\u0060')^[3] "a`````b".toList ∧
      r.quoteName "main.`users`" = "`main`.`users`" ∧
      r.quoteName (r.quoteName "main.`users`") = r.quoteName "main.`users`" := by
  intro r
  obtain ⟨hrounds, hquotes⟩ := quotes_collapse
  obtain ⟨-, hsqueezed⟩ := hrounds '\u0060' "a`````b".toList
  refine ⟨(hsqueezed _).2 (by decide +kernel), by decide +kernel, by decide +kernel, ?_⟩
  exact (hquotes r '\u0060' "main.`users`" rfl).2 (by decide) (by decide)

end SqlGateway.Identifier.Rules

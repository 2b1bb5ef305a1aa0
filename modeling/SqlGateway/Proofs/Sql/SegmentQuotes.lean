import Mathlib.Algebra.BigOperators.Group.List.Basic
import Mathlib.Algebra.Ring.Parity
import SqlGateway.Proofs.Sql.PrefixPlace

/-!
# Which quotes have a counterpart

A path gets quotes around each of its segments, but for a star at its end. Where there is such a
star and there are segments between it and the first one, these get a quote at their end alone. Such
a path has as many quotes as segments, so it has one without a counterpart if their number is odd.

The other quote without a counterpart is that of an empty segment, whose two quotes are taken for a
double one. A path of segments that are not empty can come to have such a segment when it is
trimmed.

Main definitions:

* `Identifier.Rules.LosesQuotes`: a later segment begins with a star, so quotes are missing.
* `Identifier.Rules.Unbalanced`: quoting the path leaves a quote without a counterpart.
* `Identifier.Rules.wildcard`: the star at the end of a path.

Main results:

* `Identifier.Rules.odd_count_quoteSegments`: when the quotes of a path are odd in number.
* `Identifier.Rules.segment_quotes`: which paths are quoted segment by segment, and when protection
  leaves a quote without a counterpart.
-/

namespace SqlGateway.Identifier.Rules

/-! ## Counting quotes -/

section

variable {q : Char}

theorem count_path (hq : q ≠ '.') (parts : List (List Char)) :
    (path parts).count q = (parts.map (List.count q)).sum := by
  -- the dots between the segments count for nothing
  induction parts with
  | nil => rfl
  | cons part parts ih =>
    cases parts with
    | nil => rw [path_singleton, List.map_singleton, List.sum_singleton]
    | cons next rest =>
      rw [path_cons_cons, List.count_append, List.count_cons_of_ne hq.symm, ih, List.map_cons,
        List.sum_cons, List.map_cons, List.map_cons, List.sum_cons, List.sum_cons]

/-- Segments that get the same number of quotes. -/
theorem sum_count_map {f : List Char → List Char} {k : Nat} {parts : List (List Char)}
    (h : ∀ part ∈ parts, (f part).count q = k) :
    ((parts.map f).map (List.count q)).sum = parts.length * k := by
  have hsame : parts.map (List.count q ∘ f) = parts.map fun _ => k := List.map_congr_left h
  rw [List.map_map, hsame, List.map_const', List.sum_replicate_nat]

theorem quoted_of_ne_nil {name : List Char} (hne : name ≠ []) (hname : q ∉ name) :
    quoted q name = q :: name ++ [q] := by
  match name, hne with
  | c :: name, _ =>
    -- the name keeps its quotes apart, so there is nothing to squeeze
    have hc : c ≠ q := fun h => hname (h ▸ List.mem_cons_self ..)
    unfold quoted
    rw [List.cons_append, List.cons_append, Chars.squeezeChar, if_neg fun h => hc h.2,
      ← List.cons_append, Chars.squeezeChar_concat hname]

theorem count_concat {name : List Char} (hname : q ∉ name) : (name ++ [q]).count q = 1 := by
  rw [List.count_append, List.count_eq_zero_of_not_mem hname, List.count_singleton_self]

/-- Only an empty name gets a quote without a counterpart. -/
theorem count_quoted {name : List Char} (hname : q ∉ name) :
    (quoted q name).count q = if name = [] then 1 else 2 := by
  split
  · rename_i hnil
    rw [hnil]
    simp [quoted, Chars.squeezeChar]
  · rename_i hne
    rw [quoted_of_ne_nil hne hname]
    simp [List.count_eq_zero_of_not_mem hname]

/-- Where only empty segments have an odd number of quotes, it is their number that counts. -/
theorem odd_sum_iff {f : List Char → Nat} {parts : List (List Char)}
    (hf : ∀ part ∈ parts, Odd (f part) ↔ part = []) :
    Odd (parts.map f).sum ↔ Odd (parts.count []) := by
  induction parts with
  | nil => simp
  | cons part parts ih =>
    obtain ⟨hpart, hparts⟩ := List.forall_mem_cons.1 hf
    -- an empty segment turns odd and even around, and no other segment does
    rw [List.map_cons, List.sum_cons, Nat.odd_add, ← Nat.not_odd_iff_even, ih hparts, hpart]
    by_cases hnil : part = []
    · rw [hnil, List.count_cons_self, Nat.odd_add_one]
      simp
    · rw [List.count_cons_of_ne hnil]
      simp [hnil]

end

/-! ## Paths -/

/-- A segment but the first begins with a star, so the later segments lose quotes. -/
def LosesQuotes (parts : List (List Char)) : Prop :=
  ∃ part ∈ parts.tail, part.head? = some '*'

instance (parts : List (List Char)) : Decidable (LosesQuotes parts) :=
  inferInstanceAs (Decidable (∃ part ∈ parts.tail, part.head? = some '*'))

/-- Quoting the path leaves a quote without a counterpart. Where quotes are lost there is one for
each segment, and the first segment has another one unless it is empty; else each segment has two,
unless it is empty. -/
def Unbalanced (parts : List (List Char)) : Prop :=
  if LosesQuotes parts then Odd (parts.length + if parts.headD [] = [] then 1 else 0)
  else Odd (parts.count [])

instance (parts : List (List Char)) : Decidable (Unbalanced parts) :=
  inferInstanceAs (Decidable (ite (LosesQuotes parts) _ _))

section

variable {q : Char} (hq : q ≠ '.') (hstar : q ≠ '*')
include hq

theorem quoteSegments_losing {first last : List Char} {middle : List (List Char)}
    (hdot : ∀ part ∈ first :: middle ++ [last], '.' ∉ part)
    (hclean : ∀ part ∈ first :: middle ++ [last], q ∉ part)
    (hloses : LosesQuotes (first :: middle ++ [last])) :
    quoteSegments q (path (first :: middle ++ [last])) =
      path (quoted q first :: middle.map (· ++ [q]) ++ [last]) := by
  -- without quotes in the segments there are no runs of quotes to squeeze
  have hmiddle : middle.map (fun part => Chars.squeezeChar q (part ++ [q])) =
      middle.map (· ++ [q]) :=
    List.map_congr_left fun part hpart => Chars.squeezeChar_concat (hclean part (by simp [hpart]))
  rw [quoteSegments_starred hq middle hdot hloses, hmiddle,
    Chars.squeezeChar_of_not_mem (hclean last (by simp))]

include hstar

theorem odd_count_quoteSegments {parts : List (List Char)} (hne : parts ≠ [])
    (hdot : ∀ part ∈ parts, '.' ∉ part) (hclean : ∀ part ∈ parts, q ∉ part) :
    Odd ((quoteSegments q (path parts)).count q) ↔ Unbalanced parts := by
  unfold Unbalanced
  by_cases hloses : LosesQuotes parts
  · rw [if_pos hloses]
    -- the segment with the star is not the first one
    obtain ⟨first, middle, last, rfl⟩ := exists_first_last hloses
    have hcount : (quoteSegments q (path (first :: middle ++ [last]))).count q =
        (if first = [] then 1 else 2) + middle.length := by
      rw [quoteSegments_losing hq hdot hclean hloses, count_path hq, List.map_append, List.map_cons,
        count_quoted (hclean first (by simp)), List.map_singleton,
        List.count_eq_zero_of_not_mem (hclean last (by simp)), List.sum_append, List.sum_cons,
        sum_count_map fun part hpart => count_concat (hclean part (by simp [hpart]))]
      simp
    rw [hcount, List.cons_append, List.headD_cons, List.length_cons, List.length_append,
      List.length_singleton, Nat.odd_iff, Nat.odd_iff]
    split <;> omega
  · rw [if_neg hloses]
    by_cases hbare : parts = [['*']]
    · -- a star by itself is the one name that gets no quotes
      rw [hbare]
      have hcount : (quoteSegments q (path [['*']])).count q = 0 := by
        simp [quoteSegments, path_singleton, hstar.symm]
      rw [hcount]
      decide
    · rw [quoteSegments_path hq hne hdot hbare fun part hpart hhead => hloses ⟨part, hpart, hhead⟩,
        count_path hq, List.map_map]
      refine odd_sum_iff fun part hpart => ?_
      rw [Function.comp_apply, count_quoted (hclean part hpart)]
      split <;> simp [*]

/-- A text without quotes is the path of its pieces. -/
theorem odd_count_quoteSegments_splitOn {text : List Char} (hclean : q ∉ text) :
    Odd ((quoteSegments q text).count q) ↔ Unbalanced (Chars.splitOn '.' text) := by
  have htext : path (Chars.splitOn '.' text) = text := Chars.intercalate_splitOn '.' text
  have hcount := odd_count_quoteSegments hq hstar (Chars.splitOn_ne_nil '.' text)
    (fun part hpart => Chars.not_mem_of_mem_splitOn hpart) fun part hpart hmem =>
      hclean (htext ▸ mem_path_of_mem hpart hmem)
  rwa [htext] at hcount

end

/-! ## Paths with a star at their end -/

/-- The star at the end of a path, if there is one. -/
def wildcard (star : Bool) : List (List Char) :=
  if star then [['*']] else []

section

variable {q : Char} (hq : q ≠ '.') {first : List Char} {rest : List (List Char)}
  (hparts : ∀ part ∈ first :: rest, part ≠ [] ∧ '.' ∉ part ∧ q ∉ part ∧ '*' ∉ part)
include hq hparts

/-- Without a star each segment is quoted. -/
theorem quoteSegments_plain :
    quoteSegments q (path (first :: rest)) =
      path ((first :: rest).map fun part => q :: part ++ [q]) := by
  have hhead : ∀ part ∈ first :: rest, part.head? ≠ some '*' := fun part hpart hhead =>
    (hparts part hpart).2.2.2 (List.mem_of_head? hhead)
  have hbare : first :: rest ≠ [['*']] := by
    rintro ⟨⟩
    exact hhead _ (List.mem_singleton_self _) rfl
  rw [quoteSegments_path hq (List.cons_ne_nil _ _) (fun part hpart => (hparts part hpart).2.1) hbare
    fun part hpart => hhead part (List.mem_of_mem_tail hpart)]
  exact congrArg path (List.map_congr_left fun part hpart =>
    quoted_of_ne_nil (hparts part hpart).1 (hparts part hpart).2.2.1)

/-- With a star the first segment is quoted, and the others get a quote at their end. -/
theorem quoteSegments_wildcard (hstar : q ≠ '*') :
    quoteSegments q (path (first :: rest ++ [['*']])) =
      path ((q :: first ++ [q]) :: rest.map (· ++ [q]) ++ [['*']]) := by
  have hall {P : List Char → Prop} (hstar : P ['*']) (h : ∀ part ∈ first :: rest, P part) :
      ∀ part ∈ first :: rest ++ [['*']], P part := by
    intro part hpart
    rcases List.mem_append.1 hpart with hpart | hpart
    · exact h part hpart
    · exact List.mem_singleton.1 hpart ▸ hstar
  rw [quoteSegments_losing hq (hall (by decide) fun part hpart => (hparts part hpart).2.1)
    (hall (by simpa using hstar) fun part hpart => (hparts part hpart).2.2.1)
    ⟨['*'], by simp, rfl⟩]
  obtain ⟨hne, -, hclean, -⟩ := hparts first (List.mem_cons_self ..)
  rw [quoted_of_ne_nil hne hclean]

/-- That is one quote less for each of the others, and no other difference. -/
theorem quoteSegments_eq_iff (hstar : q ≠ '*') (star : Bool) :
    quoteSegments q (path (first :: rest ++ wildcard star)) =
        path ((first :: rest).map (fun part => q :: part ++ [q]) ++ wildcard star) ↔
      star = false ∨ rest = [] := by
  cases star with
  | false =>
    simp only [wildcard, Bool.false_eq_true, ↓reduceIte, List.append_nil, true_or, iff_true]
    exact quoteSegments_plain hq hparts
  | true =>
    simp only [wildcard, ↓reduceIte, Bool.true_eq_false, false_or]
    rw [quoteSegments_wildcard hq hparts hstar]
    constructor
    · intro h
      -- the numbers of quotes tell the two texts apart
      have hclosing : ∀ part ∈ rest, (part ++ [q]).count q = 1 := fun part hpart =>
        count_concat (hparts part (List.mem_cons_of_mem _ hpart)).2.2.1
      have hboth : ∀ part ∈ rest, (q :: part ++ [q]).count q = 2 := fun part hpart => by
        rw [List.cons_append, List.count_cons_self, hclosing part hpart]
      have hcounts := congrArg (List.count q) h
      simp only [count_path hq, List.map_append, List.map_cons, List.sum_append, List.sum_cons,
        sum_count_map hclosing, sum_count_map hboth] at hcounts
      exact List.length_eq_zero_iff.1 (by omega)
    · rintro rfl
      rfl

end

/-! ## Identifiers -/

/-- A path that begins with an alias has its segments quoted one by one. -/
theorem odd_count_aliasPath {r : Rules} {q : Char} (hquote : r.quote = some q) (hq : q ≠ '.')
    (hstar : q ≠ '*') {segments : List (List Char)} (hdot : ∀ part ∈ segments, '.' ∉ part)
    (hclean : ∀ part ∈ segments, q ∉ part) :
    Odd ((r.aliasPath true segments).count q) ↔ Odd (segments.count []) := by
  unfold aliasPath
  rw [if_pos rfl, count_path hq, List.map_map]
  refine odd_sum_iff fun part hpart => ?_
  rw [Function.comp_apply]
  split
  · rename_i hbare
    rw [hbare]
    simp [hstar.symm]
  · rename_i hbare
    unfold quoteChars
    rw [hquote]
    show Odd ((quoteSegments q part).count q) ↔ _
    rw [quoteSegments_name (hdot part hpart) hbare, count_quoted (hclean part hpart)]
    split <;> simp [*]

theorem odd_count_protectWord {r : Rules} {q : Char} (hquote : r.quote = some q) (hq : q ≠ '.')
    (hstar : q ≠ '*') (hunquoted : ∀ c ∈ r.tablePrefix.toList, r.quote ≠ some c) (u : Use)
    (quoting : Bool) {word : List Char} (hparen : '(' ∉ word) :
    Odd ((r.protectWord u quoting word).count q) ↔
      quoting = true ∧
        if AliasLed u (r.segments word) then Odd ((r.segments word).count [])
        else Unbalanced (Chars.splitOn '.' (path (r.placed u (r.segments word)))) := by
  have hdot : r.quote ≠ some '.' := fun h => hq (Option.some_inj.1 (hquote.symm.trans h))
  have hbare := r.bare_segments word
  have hclean {cs : List Char} (h : r.strip cs = cs) : q ∉ cs := fun hmem =>
    strip_eq_self_iff.1 h q hmem hquote
  have hplaced : q ∉ path (r.placed u (r.segments word)) := hclean <| by
    rw [strip_path hdot, map_strip (strip_placed hunquoted u hbare.strip)]
  cases quoting with
  | false =>
    -- what is left has no quotes at all
    have hword : r.protectWord u false word = path (r.placed u (r.segments word)) := by
      rw [protectWord_eq r u false hparen]
      split
      · rename_i hled
        rw [placed_of_aliasLed r hled]
        rfl
      · rfl
    rw [hword, List.count_eq_zero_of_not_mem hplaced]
    simp
  | true =>
    rw [protectWord_eq r u true hparen, and_iff_right rfl]
    split
    · exact odd_count_aliasPath hquote hq hstar hbare.dot fun part hpart =>
        hclean (hbare.strip part hpart)
    · unfold tablePath quoteChars
      rw [if_pos rfl, hquote]
      exact odd_count_quoteSegments_splitOn hq hstar hplaced

/-- **Quotes segment by segment.** A path of segments without quotes or stars gets quotes around
each of them, unless a star follows more than one of them: then all but the first lack the quote in
front. The quotes of an identifier are odd in number if it is quoted at all, is no expression, and
such a path or an empty segment leaves one quote over; a path that begins with an alias lacks no
quotes. -/
theorem segment_quotes {r : Rules} {q : Char} (hquote : r.quote = some q) (hq : q ≠ '.')
    (hstar : q ≠ '*') :
    (∀ (first : List Char) (rest : List (List Char)) (star : Bool),
      (∀ part ∈ first :: rest, part ≠ [] ∧ '.' ∉ part ∧ q ∉ part ∧ '*' ∉ part) →
        let escaped := r.quoteName (String.ofList (path (first :: rest ++ wildcard star)))
        (escaped = String.ofList
            (path ((first :: rest).map (fun part => q :: part ++ [q]) ++ wildcard star)) ↔
          star = false ∨ rest = []) ∧
        (star = true → escaped = String.ofList
          (path ((q :: first ++ [q]) :: rest.map (· ++ [q]) ++ wildcard star)))) ∧
      ∀ (u : Use) (item : String), (∀ c ∈ r.tablePrefix.toList, r.quote ≠ some c) →
        q ∉ (cut item.toList).1 ++ (cut item.toList).2 →
          let word := (cut item.toList).1
          let segments := Chars.splitOn '.' word
          (Odd ((r.protect u item).toList.count q) ↔
            u.quoting.getD r.quoting = true ∧ '(' ∉ word ∧
              if AliasLed u segments then Odd (segments.count [])
              else Unbalanced (Chars.splitOn '.' (path (r.placed u segments)))) := by
  have hescaped (item : List Char) :
      r.quoteName (String.ofList item) = String.ofList (quoteSegments q item) := by
    unfold quoteName quoteChars
    rw [hquote, String.toList_ofList]
  refine ⟨fun first rest star hparts => ?_, fun u item hunquoted hclean => ?_⟩
  · intro escaped
    have hescaped : escaped = _ := hescaped _
    rw [hescaped, String.ofList_inj]
    refine ⟨quoteSegments_eq_iff hq hparts hstar star, fun htrue => ?_⟩
    rw [htrue]
    exact congrArg String.ofList (quoteSegments_wildcard hq hparts hstar)
  · intro word segments
    obtain ⟨hword, htail⟩ := not_or.1 (List.mem_append.not.1 hclean)
    have hdot : r.quote ≠ some '.' := fun h => hq (Option.some_inj.1 (hquote.symm.trans h))
    have hstrip : r.strip word = word := strip_eq_self_iff.2 fun c hc hquoted =>
      hword (Option.some_inj.1 (hquote.symm.trans hquoted) ▸ hc)
    have hsegments : r.segments word = segments := by
      unfold Rules.segments
      rw [map_strip_splitOn hdot, hstrip]
    unfold protect
    rw [String.toList_ofList, protectChars_eq, List.count_append,
      List.count_eq_zero_of_not_mem htail, Nat.add_zero]
    by_cases hparen : '(' ∈ word
    · -- an expression is left as it is
      have hsame : r.protectWord u (u.quoting.getD r.quoting) word = word := if_pos hparen
      rw [hsame, List.count_eq_zero_of_not_mem hword]
      simp [hparen]
    · rw [odd_count_protectWord hquote hq hstar hunquoted u _ hparen, hsegments,
        and_iff_right hparen]

/-- A star after one segment, and one after two. In the second path the table takes the prefix, and
lacks the quote in front of it. -/
theorem segment_quotes_star :
    let r : Rules := ⟨"app_", "", some '\u0060', true⟩
    let item := "main.users.*"
    (∀ part ∈ ["users".toList], part ≠ [] ∧ '.' ∉ part ∧ '\u0060' ∉ part ∧ '*' ∉ part) ∧
      r.quoteName "users.*" = "`users`.*" ∧
      (∀ c ∈ r.tablePrefix.toList, r.quote ≠ some c) ∧
      '\u0060' ∉ (cut item.toList).1 ++ (cut item.toList).2 ∧
      r.protect .column item = "`main`.app_users`.*" ∧
      Odd ((r.protect .column item).toList.count '\u0060') := by
  intro r item
  have hparts : ∀ part ∈ ["users".toList],
      part ≠ [] ∧ '.' ∉ part ∧ '\u0060' ∉ part ∧ '*' ∉ part := by
    decide
  have hunquoted : ∀ c ∈ r.tablePrefix.toList, r.quote ≠ some c :=
    List.all_iff_forall_prop.1 (by decide)
  have hclean : '\u0060' ∉ (cut item.toList).1 ++ (cut item.toList).2 := by decide +kernel
  obtain ⟨hescaped, hprotected⟩ :=
    segment_quotes (r := r) (q := '\u0060') rfl (by decide) (by decide)
  refine ⟨hparts, ?_, hunquoted, hclean, by decide +kernel, ?_⟩
  · exact (hescaped "users".toList [] true hparts).1.2 (.inr rfl)
  · exact (hprotected .column item hunquoted hclean).2 (by decide +kernel)

/-- A star after two segments leaves the second one without the quote in front of it, so there are
three quotes. There are three as well where blanks at the beginning are all of a segment. -/
theorem segment_quotes_lost :
    let r : Rules := ⟨"", "", some '\u0060', true⟩
    r.quoteName "a.b.*" = "`a`.b`.*" ∧ r.quoteName "a.b.*" ≠ "`a`.`b`.*" ∧
      r.protect .column "a.b.*" = "`a`.b`.*" ∧
      Odd ((r.protect .column "a.b.*").toList.count '\u0060') ∧
      r.quoteName " .a" = "` `.`a`" ∧ r.protect .column " .a" = "`.`a`" ∧
      Odd ((r.protect .column " .a").toList.count '\u0060') := by
  decide +kernel

end SqlGateway.Identifier.Rules

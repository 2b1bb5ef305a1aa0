import Mathlib.Data.List.Basic
import SqlGateway.Text.Pieces

/-!
# Pieces and runs

How the pieces between separators, and the runs of one character, fare when other characters are
dropped from a text or put into it.

Main results:

* `Chars.map_filter_splitOn`: dropping characters from a text drops them from its pieces.
* `Chars.filter_squeezeChar`, `Chars.filter_replaceChar`: what is dropped afterwards may be squeezed
  or put in before.
-/

namespace SqlGateway.Chars

/-! ## Pieces -/

theorem splitOn_cons_self (sep : Char) (cs : List Char) :
    splitOn sep (sep :: cs) = [] :: splitOn sep cs := by
  rw [splitOn, if_pos rfl]

theorem splitOn_cons_of_ne {sep c : Char} {cs piece : List Char} {pieces : List (List Char)}
    (hc : c ≠ sep) (h : splitOn sep cs = piece :: pieces) :
    splitOn sep (c :: cs) = (c :: piece) :: pieces := by
  rw [splitOn, if_neg hc, h]

theorem splitOn_eq (sep : Char) (cs : List Char) : splitOn sep cs = cs.splitOn sep := by
  induction cs with
  | nil => rfl
  | cons c cs ih =>
    obtain ⟨piece, pieces, hpieces⟩ := List.exists_cons_of_ne_nil (splitOn_ne_nil sep cs)
    rw [splitOn, List.splitOn_cons_eq_if_modifyHead, ← ih, hpieces]
    simp only [beq_iff_eq, List.modifyHead_cons]

/-- Dropping characters other than the separator drops them from each piece. -/
theorem map_filter_splitOn {sep : Char} {keep : Char → Bool} (hsep : keep sep = true)
    (cs : List Char) :
    (splitOn sep cs).map (List.filter keep) = splitOn sep (cs.filter keep) := by
  induction cs with
  | nil => rfl
  | cons c cs ih =>
    by_cases hc : c = sep
    · rw [hc, List.filter_cons_of_pos hsep, splitOn_cons_self, splitOn_cons_self, List.map_cons, ih,
        List.filter_nil]
    · obtain ⟨piece, pieces, hpieces⟩ := List.exists_cons_of_ne_nil (splitOn_ne_nil sep cs)
      rw [hpieces, List.map_cons] at ih
      rw [splitOn_cons_of_ne hc hpieces, List.map_cons]
      by_cases hkeep : keep c = true
      · rw [List.filter_cons_of_pos hkeep, List.filter_cons_of_pos hkeep,
          splitOn_cons_of_ne hc ih.symm]
      · rw [List.filter_cons_of_neg hkeep, List.filter_cons_of_neg hkeep, ih]

theorem filter_replaceChar {old : Char} {new : List Char} {keep : Char → Bool}
    (h : new.filter keep = [old].filter keep) (cs : List Char) :
    (replaceChar old new cs).filter keep = cs.filter keep := by
  induction cs with
  | nil => rfl
  | cons c cs ih =>
    unfold replaceChar at ih ⊢
    rw [List.flatMap_cons, List.filter_append, ih]
    split
    · rename_i hc
      rw [h, hc, ← List.filter_append]
      rfl
    · rw [← List.filter_append]
      rfl

/-! ## Runs of one character -/

theorem filter_squeezeChar {q : Char} {keep : Char → Bool} (hq : keep q = false)
    (cs : List Char) : (squeezeChar q cs).filter keep = cs.filter keep := by
  fun_induction squeezeChar q cs with
  | case1 => rfl
  | case2 c => rfl
  | case3 c d cs hcd ih =>
    rw [ih, hcd.1, List.filter_cons_of_neg (Bool.eq_false_iff.1 hq)]
  | case4 c d cs hcd ih =>
    rw [List.filter_cons, ih, ← List.filter_cons]

theorem squeezeChar_of_not_mem {q : Char} {cs : List Char} (h : q ∉ cs) :
    squeezeChar q cs = cs := by
  fun_induction squeezeChar q cs with
  | case1 => rfl
  | case2 c => rfl
  | case3 c d cs hcd ih => exact absurd (hcd.1 ▸ List.mem_cons_self ..) h
  | case4 c d cs hcd ih => rw [ih fun hmem => h (List.mem_cons_of_mem _ hmem)]

theorem head?_squeezeChar (q : Char) (cs : List Char) : (squeezeChar q cs).head? = cs.head? := by
  fun_induction squeezeChar q cs with
  | case1 => rfl
  | case2 c => rfl
  | case3 c d cs hcd ih => rw [ih, List.head?_cons, List.head?_cons, hcd.1, hcd.2]
  | case4 c d cs hcd ih => rfl

theorem squeezeChar_cons_of_ne {q c : Char} (hc : c ≠ q) (cs : List Char) :
    squeezeChar q (c :: cs) = c :: squeezeChar q cs := by
  cases cs with
  | nil => rfl
  | cons d cs => rw [squeezeChar, if_neg fun h => hc h.1]

/-- Another character ends a run. -/
theorem squeezeChar_append {q c : Char} (hc : c ≠ q) (as bs : List Char) :
    squeezeChar q (as ++ c :: bs) = squeezeChar q as ++ c :: squeezeChar q bs := by
  fun_induction squeezeChar q as with
  | case1 => exact squeezeChar_cons_of_ne hc bs
  | case2 d =>
    show squeezeChar q (d :: c :: bs) = d :: c :: squeezeChar q bs
    rw [squeezeChar, if_neg fun h => hc h.2, squeezeChar_cons_of_ne hc]
  | case3 d e as hde ih =>
    show squeezeChar q (d :: e :: (as ++ c :: bs)) = _
    rw [squeezeChar, if_pos hde]
    exact ih
  | case4 d e as hde ih =>
    show squeezeChar q (d :: e :: (as ++ c :: bs)) = _
    rw [squeezeChar, if_neg hde]
    exact congrArg (d :: ·) ih

/-- A run of one at the end stays as it is. -/
theorem squeezeChar_concat {q : Char} {cs : List Char} (h : q ∉ cs) :
    squeezeChar q (cs ++ [q]) = cs ++ [q] := by
  induction cs with
  | nil => rfl
  | cons c cs ih =>
    obtain ⟨hc, hcs⟩ := List.ne_and_not_mem_of_not_mem_cons h
    rw [List.cons_append, squeezeChar_cons_of_ne hc.symm, ih hcs]

/-! ## Beginnings -/

theorem startsWith_iff {lead cs : List Char} : startsWith lead cs = true ↔ lead <+: cs := by
  unfold startsWith
  rw [Option.isSome_iff_exists]
  simp only [afterLead?_eq_some_iff]
  exact ⟨fun ⟨rest, h⟩ => ⟨rest, h.symm⟩, fun ⟨rest, h⟩ => ⟨rest, h.symm⟩⟩

/-! ## Pairs of characters -/

theorem startsWith_cons_cons (l c : Char) (lead cs : List Char) :
    startsWith (l :: lead) (c :: cs) = if l = c then startsWith lead cs else false := by
  unfold startsWith
  rw [afterLead?]
  split <;> rfl

theorem occursIn_of_not_mem {l : Char} {cs : List Char} (h : l ∉ cs) (lead : List Char) :
    occursIn (l :: lead) cs = false := by
  induction cs with
  | nil => rfl
  | cons c cs ih =>
    rw [occursIn, startsWith_cons_cons, if_neg (List.ne_of_not_mem_cons h),
      ih (List.not_mem_of_not_mem_cons h)]
    rfl

/-- A pair occurs at the first `a` of a text, or after it. -/
theorem occursIn_pair_iff {a b : Char} {as : List Char} (has : a ∉ as) (bs : List Char) :
    occursIn [a, b] (as ++ a :: bs) = true ↔ bs.head? = some b ∨ occursIn [a, b] bs = true := by
  induction as with
  | nil =>
    rw [List.nil_append, occursIn, startsWith_cons_cons, if_pos rfl, Bool.or_eq_true]
    refine or_congr ?_ Iff.rfl
    cases bs with
    | nil => simp [startsWith, afterLead?]
    | cons c bs =>
      rw [startsWith_cons_cons]
      by_cases hc : b = c
      · simp [hc, startsWith, afterLead?]
      · simp [hc, Ne.symm hc]
  | cons c as ih =>
    rw [List.cons_append, occursIn, startsWith_cons_cons, if_neg (List.ne_of_not_mem_cons has),
      Bool.false_or]
    exact ih (List.not_mem_of_not_mem_cons has)

/-- Between pieces each separator is replaced, and nothing else. -/
theorem replaceChar_intercalate {old : Char} {pieces : List (List Char)}
    (h : ∀ piece ∈ pieces, old ∉ piece) (new : List Char) :
    replaceChar old new ([old].intercalate pieces) = new.intercalate pieces := by
  have hold : replaceChar old new [old] = new := by simp [replaceChar]
  induction pieces with
  | nil => rfl
  | cons piece pieces ih =>
    obtain ⟨hpiece, hpieces⟩ := List.forall_mem_cons.1 h
    cases pieces with
    | nil =>
      rw [List.intercalate_singleton, List.intercalate_singleton]
      exact replaceChar_of_not_mem hpiece
    | cons next rest =>
      rw [List.intercalate_cons_cons, List.intercalate_cons_cons, replaceChar_append,
        replaceChar_append, hold, replaceChar_of_not_mem hpiece, ih hpieces]

end SqlGateway.Chars

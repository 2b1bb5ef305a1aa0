import Mathlib.Data.List.DropRight
import SqlGateway.Text.Blank
import SqlGateway.Text.Pieces

/-!
# Tidy text

A text that has been trimmed and squeezed is tidy: doing it again changes nothing. Its first word
can be replaced by another word without making it untidy, so what is done to the first word alone
can be done again.

Main definition:

* `Chars.Tidy`: no blank at the ends, no run of spaces or tabs, no tab.

Main results:

* `Chars.tidy_squeezeGaps_trim`: trimming and squeezing make a text tidy.
* `Chars.Tidy.replaceWord`: another word in the place of the first one.
-/

namespace SqlGateway.Chars

/-! ## The two ends -/

theorem trimStart_eq_self {cs : List Char} (h : ∀ c, cs.head? = some c → isBlank c = false) :
    trimStart cs = cs := by
  cases cs with
  | nil => rfl
  | cons c cs => exact List.dropWhile_cons_of_neg (Bool.eq_false_iff.1 (h c rfl))

theorem trimEnd_eq_self {cs : List Char} (h : ∀ c, cs.getLast? = some c → isBlank c = false) :
    trimEnd cs = cs := by
  refine List.rdropWhile_eq_self_iff.2 fun hne => ?_
  exact Bool.eq_false_iff.1 (h _ (List.getLast?_eq_some_getLast hne))

theorem isBlank_of_head?_trim {c : Char} {cs : List Char} (h : (trim cs).head? = some c) :
    isBlank c = false := by
  have hstart : trim cs <+: trimStart cs := List.rdropWhile_prefix _ _
  obtain ⟨rest, hrest⟩ := hstart
  have hhead : (trimStart cs).head? = some c := by
    rw [← hrest, List.head?_append, h]
    rfl
  have hnot := List.head?_dropWhile_not isBlank cs
  rw [show (cs.dropWhile isBlank).head? = some c from hhead] at hnot
  exact hnot

theorem isBlank_of_getLast?_trim {c : Char} {cs : List Char} (h : (trim cs).getLast? = some c) :
    isBlank c = false := by
  have hne : trim cs ≠ [] := by
    rintro hnil
    rw [hnil] at h
    cases h
  rw [List.getLast?_eq_some_getLast hne, Option.some_inj] at h
  rw [← h]
  exact Bool.eq_false_iff.2 (List.rdropWhile_last_not isBlank (trimStart cs) hne)

/-- What is cut off at the end ends where something else than a blank comes. -/
theorem trim_append {lead rest : List Char} (hne : lead ≠ [])
    (hfirst : ∀ c, lead.head? = some c → isBlank c = false)
    (hrest : ∃ c ∈ rest, isBlank c = false) : trim (lead ++ rest) = lead ++ trimEnd rest := by
  have hstart : trimStart (lead ++ rest) = lead ++ rest := by
    refine trimStart_eq_self fun c hc => hfirst c ?_
    rwa [List.head?_append_of_ne_nil _ hne] at hc
  obtain ⟨c, hc, hsolid⟩ := hrest
  have hleft : (rest.reverse.dropWhile isBlank).isEmpty = false := by
    rw [List.isEmpty_eq_false_iff, Ne, List.dropWhile_eq_nil_iff]
    intro hall
    exact Bool.false_ne_true (hsolid.symm.trans (hall c (List.mem_reverse.2 hc)))
  rw [trim, hstart, trimEnd, trimEnd, List.reverse_append, List.dropWhile_append, hleft,
    if_neg Bool.false_ne_true, List.reverse_append, List.reverse_reverse]

theorem mem_of_mem_trim {c : Char} {cs : List Char} (h : c ∈ trim cs) : c ∈ cs :=
  (List.dropWhile_subset isBlank) ((List.rdropWhile_prefix isBlank (trimStart cs)).subset h)

/-- What is trimmed stays as it is when it is trimmed again. -/
theorem trim_trim (cs : List Char) : trim (trim cs) = trim cs := by
  have hstart : trimStart (trim cs) = trim cs := trimStart_eq_self fun c => isBlank_of_head?_trim
  rw [trim, hstart]
  exact trimEnd_eq_self fun c => isBlank_of_getLast?_trim

/-- Trimming leaves nothing of blanks alone. -/
theorem trim_eq_nil_iff {cs : List Char} : trim cs = [] ↔ cs.all isBlank = true := by
  have hnil : trim cs = [] ↔ ∀ c ∈ trimStart cs, isBlank c = true := List.rdropWhile_eq_nil_iff
  rw [hnil, List.all_eq_true]
  constructor
  · intro hall
    -- what is left at the start would begin with something else than a blank
    have hstart : trimStart cs = [] := by
      cases hleft : trimStart cs with
      | nil => rfl
      | cons c rest =>
        have hhead := List.head?_dropWhile_not isBlank cs
        rw [show cs.dropWhile isBlank = c :: rest from hleft] at hhead
        have hblank := hall c (hleft ▸ List.mem_cons_self ..)
        simp_all
    exact List.dropWhile_eq_nil_iff.1 hstart
  · exact fun hall c hc => hall c ((List.dropWhile_sublist isBlank).subset hc)

/-! ## Gaps -/

/-- Spaces and tabs are blank. -/
theorem not_gap_of_isBlank {c : Char} (h : isBlank c = false) : ¬(c = ' ' ∨ c = '\t') := by
  rintro (rfl | rfl) <;> cases h

theorem squeezeGapsFrom_idem (inGap : Bool) (cs : List Char) :
    squeezeGapsFrom inGap (squeezeGapsFrom inGap cs) = squeezeGapsFrom inGap cs := by
  induction cs generalizing inGap with
  | nil => rfl
  | cons c cs ih =>
    rw [squeezeGapsFrom]
    split
    · cases inGap with
      | true => exact ih true
      | false =>
        show ' ' :: squeezeGapsFrom true (squeezeGapsFrom true cs) = _
        rw [ih]
        rfl
    · rename_i hc
      rw [squeezeGapsFrom, if_neg hc, ih]

/-- What has no spaces or tabs stays as it is at the start. -/
theorem squeezeGaps_append_of_no_gap {lead : List Char} (h : ∀ c ∈ lead, ¬(c = ' ' ∨ c = '\t'))
    (cs : List Char) : squeezeGaps (lead ++ cs) = lead ++ squeezeGaps cs := by
  induction lead with
  | nil => rfl
  | cons c lead ih =>
    have hlead := ih fun d hd => h d (List.mem_cons_of_mem _ hd)
    unfold squeezeGaps at hlead ⊢
    rw [List.cons_append, squeezeGapsFrom, if_neg (h c (List.mem_cons_self ..)), hlead,
      List.cons_append]

/-- A word at the start stays as it is. -/
theorem squeezeGaps_word_append {word : List Char} (h : ∀ c ∈ word, isBlank c = false)
    (cs : List Char) : squeezeGaps (word ++ cs) = word ++ squeezeGaps cs :=
  squeezeGaps_append_of_no_gap (fun c hc => not_gap_of_isBlank (h c hc)) cs

theorem squeezeGapsFrom_concat (inGap : Bool) (cs : List Char) {c : Char}
    (hc : ¬(c = ' ' ∨ c = '\t')) :
    squeezeGapsFrom inGap (cs ++ [c]) = squeezeGapsFrom inGap cs ++ [c] := by
  induction cs generalizing inGap with
  | nil =>
    show squeezeGapsFrom inGap [c] = [c]
    rw [squeezeGapsFrom, if_neg hc, squeezeGapsFrom]
  | cons d cs ih =>
    rw [List.cons_append, squeezeGapsFrom, squeezeGapsFrom]
    split
    · cases inGap with
      | true => exact ih true
      | false => exact congrArg (' ' :: ·) (ih true)
    · exact congrArg (d :: ·) (ih false)

/-- Squeezing brings in spaces alone, and leaves no tab. -/
theorem eq_space_or_mem_of_mem_squeezeGapsFrom {c : Char} {inGap : Bool} {cs : List Char}
    (h : c ∈ squeezeGapsFrom inGap cs) : c = ' ' ∨ c ∈ cs ∧ c ≠ '\t' := by
  induction cs generalizing inGap with
  | nil => cases h
  | cons d cs ih =>
    have hlater {inGap : Bool} (h : c ∈ squeezeGapsFrom inGap cs) :
        c = ' ' ∨ c ∈ d :: cs ∧ c ≠ '\t' :=
      (ih h).imp_right fun hmem => ⟨List.mem_cons_of_mem _ hmem.1, hmem.2⟩
    rw [squeezeGapsFrom] at h
    split at h
    · cases inGap with
      | true => exact hlater h
      | false => exact (List.mem_cons.1 h).elim .inl hlater
    · rename_i hd
      rcases List.mem_cons.1 h with rfl | h
      · exact .inr ⟨List.mem_cons_self .., fun htab => hd (.inr htab)⟩
      · exact hlater h

/-! ## Tidiness -/

structure Tidy (cs : List Char) : Prop where
  squeezed : squeezeGaps cs = cs
  first : ∀ c, cs.head? = some c → isBlank c = false
  last : ∀ c, cs.getLast? = some c → isBlank c = false

/-- A tidy text stays as it is. -/
theorem Tidy.squeezeGaps_trim {cs : List Char} (h : Tidy cs) : squeezeGaps (trim cs) = cs := by
  unfold trim
  rw [trimStart_eq_self h.first, trimEnd_eq_self h.last, h.squeezed]

theorem tidy_squeezeGaps_trim (cs : List Char) : Tidy (squeezeGaps (trim cs)) := by
  refine ⟨squeezeGapsFrom_idem false _, fun c hc => ?_, fun c hc => ?_⟩
  · cases htrim : trim cs with
    | nil =>
      rw [htrim] at hc
      cases hc
    | cons d ds =>
      have hd := isBlank_of_head?_trim (c := d) (by rw [htrim]; rfl)
      rw [htrim, squeezeGaps, squeezeGapsFrom, if_neg (not_gap_of_isBlank hd)] at hc
      rw [← Option.some_inj.1 hc]
      exact hd
  · rcases List.eq_nil_or_concat' (trim cs) with htrim | ⟨ds, d, htrim⟩
    · rw [htrim] at hc
      cases hc
    · have hd := isBlank_of_getLast?_trim (c := d) (by rw [htrim, List.getLast?_concat])
      rw [htrim, squeezeGaps, squeezeGapsFrom_concat _ _ (not_gap_of_isBlank hd),
        List.getLast?_concat] at hc
      rw [← Option.some_inj.1 hc]
      exact hd

/-- A word in the place of the first one. It may be empty only if nothing follows, as the blank
after it would come first. -/
theorem Tidy.replaceWord {word tail other : List Char} (h : Tidy (word ++ tail))
    (hword : ∀ c ∈ word, isBlank c = false) (hother : ∀ c ∈ other, isBlank c = false)
    (hempty : other = [] → tail = []) : Tidy (other ++ tail) := by
  refine ⟨?_, fun c hc => ?_, fun c hc => ?_⟩
  · have htail := h.squeezed
    rw [squeezeGaps_word_append hword] at htail
    rw [squeezeGaps_word_append hother, List.append_cancel_left htail]
  · cases other with
    | nil =>
      rw [hempty rfl] at hc
      cases hc
    | cons d other => exact hother c (Option.some_inj.1 hc ▸ List.mem_cons_self ..)
  · cases tail with
    | nil =>
      rw [List.append_nil] at hc
      exact hother c (List.mem_of_getLast? hc)
    | cons d tail =>
      refine h.last c ?_
      rw [List.getLast?_append_cons] at hc ⊢
      exact hc

/-! ## The first word -/

theorem breakAt_word_append {sep : Char} {word tail : List Char} (hword : sep ∉ word)
    (htail : ∀ c, tail.head? = some c → c = sep) : breakAt sep (word ++ tail) = (word, tail) := by
  have hkeep : ∀ c ∈ word, decide (c ≠ sep) = true := fun c hc =>
    decide_eq_true fun heq => hword (heq ▸ hc)
  unfold breakAt
  rw [List.takeWhile_append_of_pos hkeep, List.dropWhile_append_of_pos hkeep]
  cases tail with
  | nil => rw [List.takeWhile_nil, List.dropWhile_nil, List.append_nil]
  | cons c tail =>
    obtain rfl := htail c rfl
    simp

/-- The rest begins with the separator. -/
theorem head?_breakAt_snd {sep c : Char} {cs : List Char}
    (h : (breakAt sep cs).2.head? = some c) : c = sep := by
  have hnot := List.head?_dropWhile_not (fun c => decide (c ≠ sep)) cs
  rw [show (cs.dropWhile _).head? = some c from h] at hnot
  exact not_not.1 (of_decide_eq_false hnot)

theorem not_mem_breakAt_fst (sep : Char) (cs : List Char) : sep ∉ (breakAt sep cs).1 := by
  intro h
  unfold breakAt at h
  have hkept := List.mem_takeWhile_imp h
  exact of_decide_eq_true hkept rfl

end SqlGateway.Chars

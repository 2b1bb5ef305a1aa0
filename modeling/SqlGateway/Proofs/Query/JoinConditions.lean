import SqlGateway.Proofs.Query.TrackedAliases
import SqlGateway.Proofs.Text.Layout

/-!
# What is left of a join condition

The condition of a join is taken apart into a name, what stands between, and the rest of the line,
and is put together again from these three. Nothing of them is lost but layout. What stands outside
of them is: everything before the first name, such as a parenthesis, and everything behind the line
of the word that comes after the first name. A text that can not be taken apart stays as it is.

Main definitions:

* `Identifier.Rules.content`: a text without its quotes and blanks.
* `JoinCondition.Fits`: a text is made of these three parts and a rest.
* `JoinCondition.Splits`: some part of the text, to its end, is such a text.
* `JoinCondition.ahead`, `JoinCondition.beyond`: what stands outside of the parts.

Main results:

* `Identifier.Rules.content_protect`: without a prefix protection changes no content.
* `JoinCondition.split?_eq_none_iff`: which texts are taken apart.
* `JoinCondition.split?_fits`: what the parts are, and what comes behind them.
* `Builder.join_keeps_content_iff`: what is lost of a condition, and which conditions are kept.
-/

namespace SqlGateway

/-! ## Contents -/

namespace Identifier.Rules

/-- A text without its quotes and blanks. -/
def content (r : Rules) (cs : List Char) : List Char :=
  (r.strip cs).filter Chars.isSolid

variable {r : Rules}

theorem content_eq_filter (r : Rules) (cs : List Char) :
    r.content cs = cs.filter fun c => Chars.isSolid c && decide (r.quote ≠ some c) := by
  rw [content, strip_eq_filter, List.filter_filter]

theorem content_append (r : Rules) (as bs : List Char) :
    r.content (as ++ bs) = r.content as ++ r.content bs := by
  rw [content, strip_append, List.filter_append]
  rfl

theorem content_strip (r : Rules) (cs : List Char) : r.content (r.strip cs) = r.content cs := by
  rw [content, strip_strip]
  rfl

theorem content_quoteChars (r : Rules) (cs : List Char) :
    r.content (r.quoteChars cs) = r.content cs := by
  rw [content, strip_quoteChars]
  rfl

theorem content_tidied (r : Rules) (cs : List Char) :
    r.content (Chars.tidied cs) = r.content cs := by
  rw [content_eq_filter, content_eq_filter]
  refine Chars.filter_tidied (fun c hc => ?_) cs
  rw [Chars.isSolid_of_isBlank c hc, Bool.false_and]

/-- Segments can be changed in their quotes and blanks. -/
theorem content_path_map {f : List Char → List Char}
    (h : ∀ part, r.content (f part) = r.content part) (parts : List (List Char)) :
    r.content (path (parts.map f)) = r.content (path parts) := by
  induction parts with
  | nil => rfl
  | cons part parts ih =>
    cases parts with
    | nil => rw [List.map_singleton, path_singleton, path_singleton, h]
    | cons next rest =>
      rw [List.map_cons] at ih
      rw [List.map_cons, List.map_cons, path_cons_cons, path_cons_cons, content_append,
        content_append, h, ← List.singleton_append, content_append, ih, ← content_append,
        List.singleton_append]

section

variable (hbare : r.tablePrefix = "")
include hbare

theorem content_protectWord (u : Use) (quoting : Bool) (word : List Char) :
    r.content (r.protectWord u quoting word) = r.content word := by
  have hsegments : r.content (path (r.segments word)) = r.content word := by
    rw [segments, content_path_map r.content_strip, path, Chars.intercalate_splitOn]
  unfold protectWord
  split
  · rfl
  split
  · rw [protectPath_eq, prefixedParts, if_pos hbare]
    split
    · unfold aliasPath
      split
      · rw [content_path_map, hsegments]
        intro part
        split
        · rfl
        · exact r.content_quoteChars part
      · exact hsegments
    · unfold tablePath
      split
      · rw [content_quoteChars, hsegments]
      · exact hsegments
  · have hname : r.bareName u (r.strip word) = r.strip word := if_neg fun h => h.1 hbare
    rw [protectName_eq, hname]
    split
    · rw [content_quoteChars, content_strip]
    · exact r.content_strip word

/-- Without a prefix, protection changes quotes and layout alone. -/
theorem content_protect (u : Use) (item : String) :
    r.content (r.protect u item).toList = r.content item.toList := by
  unfold protect
  rw [String.toList_ofList, protectChars_eq, content_append, content_protectWord hbare,
    ← content_append]
  unfold cut
  rw [Chars.breakAt_append]
  exact r.content_tidied item.toList

end

end Identifier.Rules

/-! ## Splits -/

namespace JoinCondition

/-- The text is a name, a stretch outside of words, something of a line, and a rest. -/
structure Fits (j : JoinCondition) (rest cs : List Char) : Prop where
  text : cs = j.left ++ (j.between ++ (j.right ++ rest))
  left : j.left ≠ [] ∧ ∀ c ∈ j.left, isNameChar c = true
  between : j.between ≠ [] ∧ ∀ c ∈ j.between, Chars.isWord c = false
  right : j.right ≠ [] ∧ '\n' ∉ j.right

/-- Some part of the text, to its end, is such a text. -/
def Splits (cs : List Char) : Prop :=
  ∃ suffix j rest, suffix <:+ cs ∧ Fits j rest suffix

/-- What stands before the first name. -/
def ahead (cs : List Char) : List Char :=
  cs.takeWhile fun c => !isNameChar c

/-- The text from the first name on. -/
def fromName (cs : List Char) : List Char :=
  cs.dropWhile fun c => !isNameChar c

/-- What stands behind the first line. -/
def pastLine (cs : List Char) : List Char :=
  cs.dropWhile (· ≠ '\n')

/-- What stands behind the line of the first word. -/
def pastWord (cs : List Char) : List Char :=
  pastLine (cs.dropWhile fun c => !Chars.isWord c)

/-- What stands behind the line of the first word after the first name. -/
def beyond (cs : List Char) : List Char :=
  pastWord ((fromName cs).dropWhile isNameChar)

theorem ahead_append_fromName (cs : List Char) : ahead cs ++ fromName cs = cs :=
  List.takeWhile_append_dropWhile

/-! ### Ends of lines -/

/-- The texts are the same but for ends of lines. -/
def SameButLines (as bs : List Char) : Prop :=
  as.filter (· ≠ '\n') = bs.filter (· ≠ '\n')

theorem filter_lines_eq_nil_iff {cs : List Char} :
    cs.filter (· ≠ '\n') = [] ↔ ∀ c ∈ cs, c = '\n' := by
  simp only [List.filter_eq_nil_iff, decide_eq_true_iff, ne_eq, not_not]

/-- Ends of lines are no content. -/
theorem SameButLines.content_eq {as bs : List Char} (h : SameButLines as bs)
    (r : Identifier.Rules) : r.content as = r.content bs := by
  have hlines (cs : List Char) : r.content cs = r.content (cs.filter (· ≠ '\n')) := by
    rw [r.content_eq_filter, r.content_eq_filter, List.filter_filter]
    refine List.filter_congr fun c _ => ?_
    by_cases hc : c = '\n'
    · rw [hc]
      rfl
    · rw [decide_eq_true hc, Bool.and_true]
  rw [hlines as, hlines bs, show as.filter (· ≠ '\n') = _ from h]

theorem isNameChar_newline : isNameChar '\n' = false := by
  decide

theorem ne_newline {c : Char} (h : isNameChar c = true) : c ≠ '\n' := by
  rintro rfl
  exact absurd h (Bool.eq_false_iff.1 isNameChar_newline)

theorem isWord_of_not_isNameChar {c : Char} (h : isNameChar c = false) : Chars.isWord c = false :=
  (Bool.or_eq_false_iff.1 h).1

theorem line_append_pastLine (cs : List Char) : line cs ++ pastLine cs = cs :=
  List.takeWhile_append_dropWhile

theorem pastLine_suffix (cs : List Char) : pastLine cs <:+ cs :=
  List.dropWhile_suffix _

theorem pastLine_cons (c : Char) (cs : List Char) :
    pastLine (c :: cs) = if c = '\n' then c :: cs else pastLine cs := by
  simp [pastLine, List.dropWhile_cons]

theorem newline_not_mem_line (cs : List Char) : '\n' ∉ line cs := by
  intro h
  have hne := List.mem_takeWhile_imp (p := fun c => decide (c ≠ '\n')) h
  exact of_decide_eq_true hne rfl

/-- Behind the first line there are ends of lines alone. -/
def OneLine (cs : List Char) : Prop :=
  ∀ c ∈ pastLine cs, c = '\n'

namespace OneLine

theorem cons {c : Char} {cs : List Char} (hc : c ≠ '\n') (h : OneLine cs) : OneLine (c :: cs) := by
  unfold OneLine
  rwa [pastLine_cons, if_neg hc]

theorem of_tail {c : Char} {cs : List Char} (h : ∀ d ∈ cs, d = '\n') : OneLine (c :: cs) := by
  unfold OneLine
  rw [pastLine_cons]
  split
  · exact List.forall_mem_cons.2 ⟨‹c = '\n'›, h⟩
  · exact fun d hd => h d ((pastLine_suffix cs).subset hd)

theorem tail {c : Char} {cs : List Char} (h : OneLine (c :: cs)) : OneLine cs := by
  unfold OneLine at h
  rw [pastLine_cons] at h
  split at h
  · exact fun d hd => (List.forall_mem_cons.1 h).2 d ((pastLine_suffix cs).subset hd)
  · exact h

theorem suffix {cs suffix : List Char} (h : OneLine cs) (hsuffix : suffix <:+ cs) :
    OneLine suffix := by
  induction cs with
  | nil => rwa [List.suffix_nil.1 hsuffix]
  | cons c cs ih =>
    rcases List.suffix_cons_iff.1 hsuffix with rfl | hsuffix
    · exact h
    · exact ih h.tail hsuffix

theorem pastWord {cs : List Char} (h : OneLine cs) : ∀ c ∈ pastWord cs, c = '\n' :=
  h.suffix (List.dropWhile_suffix _)

end OneLine

/-- Within ends of lines alone there is no word. -/
theorem pastWord_of_lines {cs : List Char} (h : ∀ c ∈ cs, c = '\n') : pastWord cs = [] := by
  have hnone : (cs.dropWhile fun c => !Chars.isWord c) = [] := by
    refine List.dropWhile_eq_nil_iff.2 fun c hc => ?_
    rw [h c hc]
    decide
  rw [pastWord, hnone]
  rfl

theorem pastWord_cons_of_not_isWord {c : Char} (hc : Chars.isWord c = false) (cs : List Char) :
    pastWord (c :: cs) = pastWord cs := by
  rw [pastWord, List.dropWhile_cons_of_pos (by rw [hc]; rfl)]
  rfl

/-! ### The stretch after a name -/

theorem stretch?_cons_of_isWord {c : Char} (hc : Chars.isWord c = true) (cs : List Char) :
    stretch? (c :: cs) = none := by
  rw [stretch?, if_pos hc]

theorem stretch?_cons {c : Char} (hc : Chars.isWord c = false) (cs : List Char) :
    stretch? (c :: cs) = match stretch? cs with
      | some (more, right) => some (c :: more, right)
      | none => if (line cs).isEmpty then none else some ([c], line cs) :=
  if_neg (Bool.eq_false_iff.1 hc)

theorem line_eq_nil_iff {cs : List Char} : line cs = [] ↔ ∀ c, cs.head? = some c → c = '\n' := by
  cases cs with
  | nil => exact iff_of_true rfl nofun
  | cons c cs => simp [line, List.takeWhile_cons]

/-- There is none exactly if nothing but ends of lines comes after its first character. -/
theorem stretch?_eq_none_iff {c : Char} (hc : Chars.isWord c = false) (cs : List Char) :
    stretch? (c :: cs) = none ↔ ∀ d ∈ cs, d = '\n' := by
  induction cs generalizing c with
  | nil =>
    rw [stretch?_cons hc]
    exact iff_of_true rfl nofun
  | cons d cs ih =>
    rw [stretch?_cons hc, List.forall_mem_cons]
    by_cases hd : d = '\n'
    · subst hd
      have hnewline : Chars.isWord '\n' = false := by decide
      rw [← ih hnewline]
      cases stretch? ('\n' :: cs) with
      | none => exact iff_of_true rfl ⟨rfl, rfl⟩
      | some found => simp
    · refine iff_of_false (fun h => ?_) fun h => hd h.1
      have hsome : (line (d :: cs)).isEmpty = false := by
        rw [List.isEmpty_eq_false_iff, Ne, line_eq_nil_iff]
        exact fun h => hd (h d rfl)
      split at h
      · cases h
      · rw [hsome] at h
        cases h

/-- What the stretch and the rest of the line are, and what comes behind them. -/
theorem stretch?_eq_some {cs between right : List Char} (h : stretch? cs = some (between, right)) :
    ∃ rest, cs = between ++ (right ++ rest) ∧
      (between ≠ [] ∧ ∀ c ∈ between, Chars.isWord c = false) ∧ (right ≠ [] ∧ '\n' ∉ right) ∧
      SameButLines rest (pastWord cs) := by
  induction cs generalizing between with
  | nil => cases h
  | cons c cs ih =>
    by_cases hc : Chars.isWord c = true
    · rw [stretch?_cons_of_isWord hc] at h
      cases h
    replace hc := Bool.eq_false_iff.2 hc
    rw [stretch?_cons hc] at h
    rw [pastWord_cons_of_not_isWord hc]
    split at h
    · next more right' hmore =>
      cases h
      obtain ⟨rest, htext, hbetween, hright, hrest⟩ := ih hmore
      exact ⟨rest, congrArg (c :: ·) htext,
        ⟨List.cons_ne_nil _ _, List.forall_mem_cons.2 ⟨hc, hbetween.2⟩⟩, hright, hrest⟩
    · next hnone =>
      split at h
      · cases h
      next hline =>
      cases h
      refine ⟨pastLine cs, congrArg (c :: ·) (line_append_pastLine cs).symm,
        ⟨List.cons_ne_nil _ _, List.forall_mem_cons.2 ⟨hc, nofun⟩⟩,
        ⟨fun hnil => hline (List.isEmpty_iff.2 hnil), newline_not_mem_line cs⟩, ?_⟩
      cases cs with
      | nil => rfl
      | cons d cs =>
        by_cases hd : Chars.isWord d = true
        · -- the word begins here
          have hword : (d :: cs).dropWhile (fun c => !Chars.isWord c) = d :: cs :=
            List.dropWhile_cons_of_neg (by rw [hd]; exact Bool.false_ne_true)
          rw [pastWord, hword]
          rfl
        · -- only ends of lines come after this character, and no word at all
          replace hd := Bool.eq_false_iff.2 hd
          have hlines := (stretch?_eq_none_iff hd cs).1 hnone
          rw [pastWord_cons_of_not_isWord hd, pastWord_of_lines hlines]
          exact filter_lines_eq_nil_iff.2 (OneLine.of_tail hlines)

/-! ### The name -/

theorem splitHere?_cons_of_not_isNameChar {c : Char} (hc : isNameChar c = false) (cs : List Char) :
    splitHere? (c :: cs) = none := by
  rw [splitHere?, hc]
  rfl

theorem splitHere?_cons {c : Char} (hc : isNameChar c = true) (cs : List Char) :
    splitHere? (c :: cs) = match splitHere? cs with
      | some j => some { j with left := c :: j.left }
      | none => (stretch? cs).map fun (between, right) => ⟨[c], between, right⟩ := by
  rw [splitHere?, hc]
  rfl

theorem splitHere?_eq_none {c : Char} {cs : List Char} (hc : isNameChar c = true)
    (h : splitHere? (c :: cs) = none) : splitHere? cs = none ∧ stretch? cs = none := by
  rw [splitHere?_cons hc] at h
  split at h
  · cases h
  · next hnone => exact ⟨hnone, Option.map_eq_none_iff.1 h⟩

/-- Where a name can not be split, nothing is lost behind its line. -/
theorem oneLine_of_splitHere?_eq_none {c : Char} {cs : List Char} (hc : isNameChar c = true)
    (h : splitHere? (c :: cs) = none) : OneLine (c :: cs) := by
  induction cs generalizing c with
  | nil => exact .cons (ne_newline hc) nofun
  | cons d cs ih =>
    obtain ⟨hhere, hstretch⟩ := splitHere?_eq_none hc h
    refine .cons (ne_newline hc) ?_
    by_cases hd : isNameChar d = true
    · exact ih hd hhere
    · replace hd := isWord_of_not_isNameChar (Bool.eq_false_iff.2 hd)
      exact .of_tail ((stretch?_eq_none_iff hd cs).1 hstretch)

/-- Nor can anything behind it be split. -/
theorem splitHere?_suffix_eq_none {c : Char} {cs suffix : List Char} (hc : isNameChar c = true)
    (h : splitHere? (c :: cs) = none) (hsuffix : suffix <:+ c :: cs) :
    splitHere? suffix = none := by
  have hlines {d : Char} {lines : List Char} (hd : isNameChar d = false)
      (hall : ∀ e ∈ lines, e = '\n') {suffix : List Char} (hsuffix : suffix <:+ d :: lines) :
      splitHere? suffix = none := by
    cases suffix with
    | nil => rfl
    | cons e rest =>
      refine splitHere?_cons_of_not_isNameChar ?_ rest
      rcases List.mem_cons.1 (hsuffix.subset (List.mem_cons_self ..)) with rfl | hmem
      · exact hd
      · rw [hall e hmem]
        exact isNameChar_newline
  induction cs generalizing c with
  | nil =>
    rcases List.suffix_cons_iff.1 hsuffix with rfl | hnil
    · exact h
    · rw [List.suffix_nil.1 hnil]
      rfl
  | cons d cs ih =>
    obtain ⟨hhere, hstretch⟩ := splitHere?_eq_none hc h
    rcases List.suffix_cons_iff.1 hsuffix with rfl | hsuffix
    · exact h
    by_cases hd : isNameChar d = true
    · exact ih hd hhere hsuffix
    · replace hd := Bool.eq_false_iff.2 hd
      have hall := (stretch?_eq_none_iff (isWord_of_not_isNameChar hd) cs).1 hstretch
      exact hlines hd hall hsuffix

/-- What the parts of a split are, and what comes behind them. -/
theorem splitHere?_fits {cs : List Char} {j : JoinCondition} (h : splitHere? cs = some j) :
    ∃ rest, Fits j rest cs ∧ SameButLines rest (pastWord (cs.dropWhile isNameChar)) := by
  induction cs generalizing j with
  | nil => cases h
  | cons c cs ih =>
    by_cases hc : isNameChar c = true
    swap
    · rw [splitHere?_cons_of_not_isNameChar (Bool.eq_false_iff.2 hc)] at h
      cases h
    rw [List.dropWhile_cons_of_pos hc]
    rw [splitHere?_cons hc] at h
    split at h
    · next j' hj =>
      cases h
      obtain ⟨rest, hfits, hrest⟩ := ih hj
      refine ⟨rest, ⟨congrArg (c :: ·) hfits.text, ⟨List.cons_ne_nil _ _, ?_⟩, hfits.between,
        hfits.right⟩, hrest⟩
      exact List.forall_mem_cons.2 ⟨hc, hfits.left.2⟩
    · next hnone =>
      obtain ⟨⟨between, right⟩, hstretch, rfl⟩ := Option.map_eq_some_iff.1 h
      obtain ⟨rest, htext, hbetween, hright, hrest⟩ := stretch?_eq_some hstretch
      refine ⟨rest, ⟨congrArg (c :: ·) htext, ⟨List.cons_ne_nil _ _, ?_⟩, hbetween, hright⟩,
        hrest.trans ?_⟩
      · exact List.forall_mem_cons.2 ⟨hc, nofun⟩
      cases cs with
      | nil => rfl
      | cons d cs =>
        by_cases hd : isNameChar d = true
        swap
        · rw [List.dropWhile_cons_of_neg hd]
        -- the name goes on with a dot, and there is no line behind it that could be lost
        have hone := oneLine_of_splitHere?_eq_none hd hnone
        have htail : OneLine ((d :: cs).dropWhile isNameChar) :=
          hone.suffix (List.dropWhile_suffix _)
        exact (filter_lines_eq_nil_iff.2 hone.pastWord).trans
          (filter_lines_eq_nil_iff.2 htail.pastWord).symm

/-! ### The first split -/

theorem splitFrom?_eq_none {cs : List Char} (h : ∀ suffix, suffix <:+ cs → splitHere? suffix = none)
    (inName : Bool) : splitFrom? inName cs = none := by
  induction cs generalizing inName with
  | nil => rfl
  | cons c cs ih =>
    have htail (inName : Bool) : splitFrom? inName cs = none :=
      ih (fun suffix hsuffix => h suffix (hsuffix.trans (List.suffix_cons c cs))) inName
    rw [splitFrom?, htail, h (c :: cs) List.suffix_rfl, htail]
    split <;> rfl

/-- The parts begin with the first name. -/
theorem split?_eq (cs : List Char) : split? cs = splitHere? (fromName cs) := by
  unfold split? fromName
  induction cs with
  | nil => rfl
  | cons c cs ih =>
    rw [splitFrom?, Bool.false_and, if_neg Bool.false_ne_true]
    by_cases hc : isNameChar c = true
    · rw [List.dropWhile_cons_of_neg (by rw [hc]; exact Bool.false_ne_true), hc]
      cases hhere : splitHere? (c :: cs) with
      | some j => rfl
      | none =>
        refine splitFrom?_eq_none (fun suffix hsuffix => ?_) true
        exact splitHere?_suffix_eq_none hc hhere (hsuffix.trans (List.suffix_cons c cs))
    · replace hc := Bool.eq_false_iff.2 hc
      rw [List.dropWhile_cons_of_pos (by rw [hc]; rfl), splitHere?_cons_of_not_isNameChar hc, hc]
      exact ih

theorem fromName_suffix (cs : List Char) : fromName cs <:+ cs :=
  List.dropWhile_suffix _

/-- No name begins before the first one. -/
theorem fromName_of_suffix {c : Char} {suffix cs : List Char} (hc : isNameChar c = true)
    (h : c :: suffix <:+ cs) :
    ∃ d name, fromName cs = d :: name ∧ isNameChar d = true ∧ c :: suffix <:+ fromName cs := by
  unfold fromName
  induction cs with
  | nil => cases List.suffix_nil.1 h
  | cons d cs ih =>
    by_cases hd : isNameChar d = true
    · rw [List.dropWhile_cons_of_neg (by rw [hd]; exact Bool.false_ne_true)]
      exact ⟨d, cs, rfl, hd, h⟩
    · rw [List.dropWhile_cons_of_pos (by rw [Bool.eq_false_iff.2 hd]; rfl)]
      rcases List.suffix_cons_iff.1 h with heq | h
      · rw [(List.cons.inj heq).1] at hc
        exact absurd hc hd
      · exact ih h

/-- What is taken apart, and what is left outside. -/
theorem split?_fits {cs : List Char} {j : JoinCondition} (h : split? cs = some j) :
    ∃ rest, Fits j rest (fromName cs) ∧ SameButLines rest (beyond cs) := by
  rw [split?_eq] at h
  exact splitHere?_fits h

/-! ### Texts that can be split -/

theorem Fits.exists_cons {j : JoinCondition} {rest cs : List Char} (h : Fits j rest cs) :
    ∃ c more, cs = c :: more ∧ isNameChar c = true := by
  obtain ⟨c, left, hleft⟩ := List.exists_cons_of_ne_nil h.left.1
  refine ⟨c, left ++ (j.between ++ (j.right ++ rest)), ?_, h.left.2 c ?_⟩
  · rw [h.text, hleft]
    rfl
  · rw [hleft]
    exact List.mem_cons_self ..

theorem Fits.stretch?_ne_none {j : JoinCondition} {rest cs : List Char} (h : Fits j rest cs) :
    stretch? (j.between ++ (j.right ++ rest)) ≠ none := by
  obtain ⟨hne, hbetween⟩ := h.between
  obtain ⟨c, between, heq⟩ := List.exists_cons_of_ne_nil hne
  obtain ⟨hc, hmore⟩ := List.forall_mem_cons.1 (heq ▸ hbetween)
  obtain ⟨d, right, hright⟩ := List.exists_cons_of_ne_nil h.right.1
  rw [heq, List.cons_append, Ne, stretch?_eq_none_iff hc]
  intro hlines
  refine h.right.2 ?_
  have hd : d = '\n' := hlines d (by rw [hright]; simp)
  rw [hright, hd]
  exact List.mem_cons_self ..

/-- A text that is made of such parts is split at its start. -/
theorem Fits.splitHere?_ne_none {j : JoinCondition} {rest cs : List Char} (h : Fits j rest cs) :
    splitHere? cs ≠ none := by
  have hstretch := h.stretch?_ne_none
  obtain ⟨hne, hleft⟩ := h.left
  rw [h.text]
  generalize j.between ++ (j.right ++ rest) = after at hstretch
  generalize j.left = left at hne hleft
  induction left with
  | nil => exact absurd rfl hne
  | cons c left ih =>
    obtain ⟨hc, hleft⟩ := List.forall_mem_cons.1 hleft
    intro hnone
    obtain ⟨hhere, hnone⟩ := splitHere?_eq_none hc hnone
    cases left with
    | nil => exact hstretch hnone
    | cons d left => exact ih (List.cons_ne_nil _ _) hleft hhere

/-- A text is taken apart exactly if some part of it is made of such parts. -/
theorem split?_eq_none_iff (cs : List Char) : split? cs = none ↔ ¬Splits cs := by
  constructor
  · rintro hnone ⟨suffix, j, rest, hsuffix, hfits⟩
    refine hfits.splitHere?_ne_none ?_
    rw [split?_eq] at hnone
    obtain ⟨c, more, hcons, hc⟩ := hfits.exists_cons
    rw [hcons] at hsuffix ⊢
    obtain ⟨d, name, hname, hd⟩ := fromName_of_suffix hc hsuffix
    rw [hname] at hnone hd
    exact splitHere?_suffix_eq_none hd.1 hnone hd.2
  · intro hsplits
    cases h : split? cs with
    | none => rfl
    | some j =>
      obtain ⟨rest, hfits, -⟩ := split?_fits h
      exact absurd ⟨fromName cs, j, rest, fromName_suffix cs, hfits⟩ hsplits

/-! ### The rendered text -/

section

variable (style : Style) (b : Builder) {text : String}

theorem render_of_not_splits (h : ¬Splits text.toList) : render style b text = text := by
  unfold render
  rw [(split?_eq_none_iff _).2 h]

variable {style} (hbare : style.rules.tablePrefix = "")
include hbare

/-- What stands outside of the parts is all that is lost of a text that is taken apart. -/
theorem content_eq_of_splits (h : Splits text.toList) :
    style.rules.content text.toList =
      style.rules.content (ahead text.toList) ++
        (style.rules.content (render style b text).toList ++
          style.rules.content (beyond text.toList)) := by
  have hcolumn (side : List Char) :
      style.rules.content (b.column style (String.ofList side)).toList =
        style.rules.content side := by
    have hside := Identifier.Rules.content_protect hbare
      ⟨b.aliases, false, none, true⟩ (String.ofList side)
    rwa [String.toList_ofList] at hside
  obtain ⟨j, hj⟩ := Option.ne_none_iff_exists'.1 fun hnone => (split?_eq_none_iff _).1 hnone h
  obtain ⟨rest, hfits, hrest⟩ := split?_fits hj
  have hrender : style.rules.content (render style b text).toList =
      style.rules.content (j.left ++ (j.between ++ j.right)) := by
    unfold render
    rw [hj, String.toList_append, String.toList_append, String.toList_ofList, List.append_assoc,
      Identifier.Rules.content_append, Identifier.Rules.content_append, hcolumn, hcolumn,
      ← Identifier.Rules.content_append, ← Identifier.Rules.content_append]
  rw [hrender, ← hrest.content_eq, ← Identifier.Rules.content_append,
    ← Identifier.Rules.content_append, List.append_assoc, List.append_assoc, ← hfits.text,
    ahead_append_fromName]

theorem content_render_eq_iff :
    style.rules.content (render style b text).toList = style.rules.content text.toList ↔
      (Splits text.toList → style.rules.content (ahead text.toList) = [] ∧
        style.rules.content (beyond text.toList) = []) := by
  by_cases h : Splits text.toList
  · rw [content_eq_of_splits b hbare h, imp_iff_right h]
    refine ⟨fun heq => ?_, fun ⟨hahead, hbeyond⟩ => ?_⟩
    · have hlength := congrArg List.length heq
      rw [List.length_append, List.length_append] at hlength
      exact ⟨List.eq_nil_of_length_eq_zero (by omega), List.eq_nil_of_length_eq_zero (by omega)⟩
    · rw [hahead, hbeyond, List.append_nil, List.nil_append]
  · exact iff_of_true (by rw [render_of_not_splits style b h]) fun hsplits => absurd hsplits h

end

end JoinCondition

/-! ## Joins -/

namespace Builder

open JoinCondition

/-- For a connection without a prefix, every builder, table, kind and condition: what a join puts
after `ON`. A condition that can not be taken apart stays as it is. Of any other condition exactly
what stands before its first name and behind the line of the word after that is lost, quotes and
blanks aside, so that it is kept exactly if nothing stands there. -/
theorem join_keeps_content_iff {style : Style} (hbare : style.rules.tablePrefix = "")
    (b : Builder) (table condition kind : String) :
    ∃ on, b.join style table condition kind =
        (b.trackAlias table).addJoin ((b.trackAlias table).joinLead style table kind ++ on) ∧
      (¬Splits condition.toList → on = condition) ∧
      (Splits condition.toList → style.rules.content condition.toList =
        style.rules.content (ahead condition.toList) ++
          (style.rules.content on.toList ++ style.rules.content (beyond condition.toList))) ∧
      (style.rules.content on.toList = style.rules.content condition.toList ↔
        (Splits condition.toList → style.rules.content (ahead condition.toList) = [] ∧
          style.rules.content (beyond condition.toList) = [])) :=
  ⟨render style (b.trackAlias table) condition, join_eq .., render_of_not_splits style _,
    content_eq_of_splits _ hbare, content_render_eq_iff _ hbare⟩

/-- Identifiers are quoted, and tables have no prefix. -/
def joinStyle : Style :=
  ⟨.mysql, ⟨"", "", some '\u0060', true⟩⟩

/-- All comparisons of a line are kept, with the names of the later ones as they are. -/
theorem join_keeps_content_comparisons :
    joinStyle.rules.tablePrefix = "" ∧
      ∃ on, Builder.empty.join joinStyle "b" "a.id = b.a_id AND (a.kind > 1)" "left" =
          Builder.empty.addJoin ("LEFT JOIN `b` ON " ++ on) ∧
        joinStyle.rules.content on.toList =
          joinStyle.rules.content "a.id = b.a_id AND (a.kind > 1)".toList := by
  have hbare : joinStyle.rules.tablePrefix = "" := rfl
  obtain ⟨on, hjoin, -, -, hkept⟩ := join_keeps_content_iff hbare .empty "b"
    "a.id = b.a_id AND (a.kind > 1)" "left"
  have htrack : Builder.empty.trackAlias "b" = .empty := by
    decide +kernel
  have hlead : Builder.empty.joinLead joinStyle "b" "left" = "LEFT JOIN `b` ON " := by
    decide +kernel
  rw [htrack, hlead] at hjoin
  have hnothing : joinStyle.rules.content (ahead "a.id = b.a_id AND (a.kind > 1)".toList) = [] ∧
      joinStyle.rules.content (beyond "a.id = b.a_id AND (a.kind > 1)".toList) = [] := by
    decide +kernel
  exact ⟨rfl, on, hjoin, hkept.2 fun _ => hnothing⟩

/-- The second line of one condition is lost, and the parenthesis at the start of another. -/
theorem join_loses_content :
    (Builder.empty.join joinStyle "b" "a.id = b.a_id\nAND b.kind = 1" "left").live.joins =
        ["LEFT JOIN `b` ON `a`.`id` = `b`.`a_id`"] ∧
      joinStyle.rules.content "`a`.`id` = `b`.`a_id`".toList ≠
        joinStyle.rules.content "a.id = b.a_id\nAND b.kind = 1".toList ∧
      (Builder.empty.join joinStyle "b" "(a.id = b.a_id)" "left").live.joins =
        ["LEFT JOIN `b` ON `a`.`id` = `b`.`a_id)`"] ∧
      joinStyle.rules.content "`a`.`id` = `b`.`a_id)`".toList ≠
        joinStyle.rules.content "(a.id = b.a_id)".toList := by
  decide +kernel

end Builder

end SqlGateway

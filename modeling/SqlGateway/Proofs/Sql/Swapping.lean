import SqlGateway.Sql.PrefixSwap

/-!
# What the swap of the prefix leaves alone

The swap goes over whole statements, what stands between quotes included. A text in which the
stand-in is not found stays as it is. Between two quotes the same holds of the stretch alone,
whatever happens on both sides of it: no match reaches over a quote, since a stand-in has none.

Main definitions:

* `PrefixSwap.FoundIn`: the stand-in is in a text where the swap finds it.
* `PrefixSwap.Inert`: a prefix without references, which stands for itself in the replacement.

Main results:

* `PrefixSwap.apply_eq_self`: when the swap changes nothing.
* `PrefixSwap.apply_around`: a stretch between quotes stays, and no quote comes up behind it.
-/

namespace SqlGateway

/-! ## Replacing -/

namespace Chars

/-- A rule that replaces nothing at any place of the text leaves it as it is. -/
theorem replaceFrom_of_none {rule : List Char → Option Replacement} {cs : List Char}
    (h : ∀ suffix, suffix <:+ cs → rule suffix = none) : replaceFrom rule 0 cs = cs := by
  induction cs with
  | nil => rfl
  | cons c cs ih =>
    rw [replaceFrom, h (c :: cs) List.suffix_rfl]
    exact congrArg (c :: ·) (ih fun suffix hs => h suffix (hs.trans (List.suffix_cons c cs)))

/-- What has been replaced already is left out. -/
theorem replaceFrom_eq_drop (rule : List Char → Option Replacement) (skip : Nat) (cs : List Char) :
    replaceFrom rule skip cs = replaceFrom rule 0 (cs.drop skip) := by
  induction cs generalizing skip with
  | nil => simp [replaceFrom]
  | cons c cs ih =>
    cases skip with
    | zero => rfl
    | succ skip => exact ih skip

theorem replaceFrom_length (rule : List Char → Option Replacement) (skipped cs : List Char) :
    replaceFrom rule skipped.length (skipped ++ cs) = replaceFrom rule 0 cs := by
  rw [replaceFrom_eq_drop, List.drop_left]

end Chars

namespace PrefixSwap

open Chars

/-! ## Where the stand-in is found -/

/-- The stand-in is in the text, behind a character that is part of no word and before one that is
no blank. -/
def FoundIn (standIn cs : List Char) : Prop :=
  ∃ before c d after, cs = before ++ c :: (standIn ++ d :: after) ∧
    isWord c = false ∧ isBlank d = false

variable {standIn tablePrefix : List Char}

theorem FoundIn.mono {cs ds : List Char} (h : FoundIn standIn cs) (hin : cs <:+: ds) :
    FoundIn standIn ds := by
  obtain ⟨before, c, d, after, rfl, hc, hd⟩ := h
  obtain ⟨left, right, rfl⟩ := hin
  exact ⟨left ++ before, c, d, after ++ right, by simp, hc, hd⟩

/-- The rule replaces a match at the start of the text and nothing else. -/
theorem swapRule_eq_some {cs : List Char} {r : Replacement}
    (h : swapRule standIn tablePrefix cs = some r) :
    ∃ c d after, cs = c :: (standIn ++ d :: after) ∧ isWord c = false ∧ isBlank d = false ∧
      r = ⟨standIn.length + 2,
        expand [c :: standIn ++ [d], [c], [d]] (template tablePrefix)⟩ := by
  cases cs with
  | nil => cases h
  | cons c rest =>
    rw [swapRule] at h
    split at h
    · cases h
    · rename_i hc
      split at h
      · rename_i d after hrest
        split at h
        · cases h
        · rename_i hd
          exact ⟨c, d, after, congrArg (c :: ·) (afterLead?_eq_some_iff.1 hrest),
            Bool.eq_false_iff.2 hc, Bool.eq_false_iff.2 hd, (Option.some.inj h).symm⟩
      · cases h

theorem swapRule_eq_none {cs : List Char} (h : ¬FoundIn standIn cs) :
    swapRule standIn tablePrefix cs = none := by
  cases hrule : swapRule standIn tablePrefix cs with
  | none => rfl
  | some r =>
    obtain ⟨c, d, after, rfl, hc, hd, -⟩ := swapRule_eq_some hrule
    exact absurd ⟨[], c, d, after, rfl, hc, hd⟩ h

/-- The swap changes nothing if it has nothing to do, or if the stand-in is not found. -/
theorem apply_eq_self {tablePrefix standIn sql : String}
    (h : tablePrefix = "" ∨ standIn = "" ∨ tablePrefix = standIn ∨
      ¬FoundIn standIn.toList sql.toList) : apply tablePrefix standIn sql = sql := by
  rw [← or_assoc, ← or_assoc, or_assoc (a := tablePrefix = "")] at h
  unfold apply
  split
  · rfl
  · rename_i hbusy
    have hfree := h.resolve_left hbusy
    rw [replaceBy, replaceFrom_of_none, String.ofList_toList]
    exact fun suffix hs => swapRule_eq_none fun hfound => hfree (hfound.mono hs.isInfix)

/-! ## What a match becomes -/

theorem expand_cons_of_ne (parts : List (List Char)) {c : Char} (hc : c ≠ '$') (cs : List Char) :
    expand parts (c :: cs) = c :: expand parts cs := by
  unfold expand replaceBy
  rw [replaceFrom]
  split
  · rename_i hrule
    split at hrule
    · rename_i heq
      exact absurd (List.cons.inj heq).1 hc
    · cases hrule
  · rfl

theorem expand_dollar (parts : List (List Char)) (rest : List Char) :
    expand parts ('$' :: rest) =
      (reference parts rest).1 ++ expand parts (rest.drop (reference parts rest).2) := by
  unfold expand replaceBy
  exact congrArg ((reference parts rest).1 ++ ·) (replaceFrom_eq_drop _ _ rest)

/-- Behind a dollar sign, the character makes it one half of a pair or opens a reference. -/
def opensReference (c : Char) : Bool :=
  c = '$' || c = '{' || isReferenceChar c

theorem reference_of_not_opens (parts : List (List Char)) {c : Char} (hc : opensReference c = false)
    (rest : List Char) : reference parts (c :: rest) = (['$'], 0) := by
  simp only [opensReference, Bool.or_eq_false_iff, decide_eq_false_iff_not] at hc
  obtain ⟨⟨hdollar, hbrace⟩, hname⟩ := hc
  unfold reference
  split
  · rename_i heq
    exact absurd (List.cons.inj heq).1 hdollar
  · rename_i heq
    exact absurd (List.cons.inj heq).1 hbrace
  · rw [List.takeWhile_cons_of_neg (by simp [hname])]
    rfl

/-- Every dollar sign comes before a character that does nothing to it. -/
def Inert (cs : List Char) : Prop :=
  ∀ before after, cs = before ++ '$' :: after → ∃ c ∈ after.head?, opensReference c = false

theorem inert_of_not_mem {cs : List Char} (h : '$' ∉ cs) : Inert cs := by
  rintro before after rfl
  simp at h

theorem inert_cons_of_ne {c : Char} (hc : c ≠ '$') {cs : List Char} :
    Inert (c :: cs) ↔ Inert cs := by
  constructor
  · rintro h before after rfl
    exact h (c :: before) after rfl
  · intro h before after heq
    cases before with
    | nil => exact absurd (List.cons.inj heq).1 hc
    | cons b before => exact h before after (List.cons.inj heq).2

theorem inert_dollar {cs : List Char} :
    Inert ('$' :: cs) ↔ (∃ c ∈ cs.head?, opensReference c = false) ∧ Inert cs := by
  constructor
  · intro h
    exact ⟨h [] cs rfl, fun before after heq => h ('$' :: before) after (congrArg _ heq)⟩
  · rintro ⟨hfirst, h⟩ before after heq
    cases before with
    | nil =>
      obtain rfl : cs = after := (List.cons.inj heq).2
      exact hfirst
    | cons b before => exact h before after (List.cons.inj heq).2

/-- An inert text stays. -/
theorem expand_inert (parts : List (List Char)) {cs : List Char} (h : Inert cs) (rest : List Char) :
    expand parts (cs ++ rest) = cs ++ expand parts rest := by
  induction cs with
  | nil => rfl
  | cons c cs ih =>
    rw [List.cons_append, List.cons_append]
    by_cases hc : c = '$'
    · rw [hc] at h ⊢
      obtain ⟨⟨d, hd, hopens⟩, hcs⟩ := inert_dollar.1 h
      obtain ⟨tail, rfl⟩ := List.head?_eq_some_iff.1 hd
      have hreference : reference parts (d :: tail ++ rest) = (['$'], 0) :=
        reference_of_not_opens parts hopens _
      rw [expand_dollar, hreference, List.drop_zero, ih hcs]
      rfl
    · rw [expand_cons_of_ne parts hc, ih ((inert_cons_of_ne hc).1 h)]

/-- A match keeps the characters on both sides, around the prefix. -/
theorem expand_template (h : Inert tablePrefix) (whole : List Char) (c d : Char) :
    expand [whole, [c], [d]] (template tablePrefix) = c :: (tablePrefix ++ [d]) := by
  have hfirst (rest : List Char) : expand [whole, [c], [d]] ("$\x7b1\x7d".toList ++ rest) =
      c :: expand [whole, [c], [d]] rest :=
    rfl
  have hlast : expand [whole, [c], [d]] "$\x7b2\x7d".toList = [d] := rfl
  show expand _ ("$\x7b1\x7d".toList ++ tablePrefix ++ "$\x7b2\x7d".toList) = _
  rw [List.append_assoc, hfirst, expand_inert _ h, hlast]

/-! ## Between two quotes -/

section
variable {q : Char}

/-- A stand-in with a character behind it reaches up to a quote at most, or both come before it. -/
theorem append_eq_append_quote {cs rest more : List Char} {d : Char} (hq : q ∉ standIn)
    (h : cs ++ q :: rest = standIn ++ d :: more) :
    (cs = standIn ∧ d = q ∧ rest = more) ∨
      ∃ between, cs = standIn ++ d :: between ∧ more = between ++ q :: rest := by
  rcases List.append_eq_append_iff.1 h with ⟨gap, hgap, hrest⟩ | ⟨between, hbetween, hmore⟩
  · cases gap with
    | nil =>
      rw [List.append_nil] at hgap
      obtain ⟨hqd, hrest⟩ := List.cons.inj hrest
      exact .inl ⟨hgap.symm, hqd.symm, hrest⟩
    | cons x gap =>
      obtain ⟨rfl, -⟩ := List.cons.inj hrest
      rw [hgap] at hq
      exact absurd (List.mem_append_right _ (List.mem_cons_self ..)) hq
  · cases between with
    | nil =>
      rw [List.append_nil] at hbetween
      obtain ⟨hdq, hmore⟩ := List.cons.inj hmore
      exact .inl ⟨hbetween, hdq, hmore.symm⟩
    | cons x between =>
      obtain ⟨rfl, htail⟩ := List.cons.inj hmore
      exact .inr ⟨between, hbetween, htail⟩

/-- A match that begins before a quote is found in the text up to that quote. -/
theorem swapRule_eq_none_of_quote {c : Char} {cs rest : List Char} (hq : q ∉ standIn)
    (hfree : ¬FoundIn standIn (c :: (cs ++ [q]))) :
    swapRule standIn tablePrefix (c :: (cs ++ q :: rest)) = none := by
  cases hrule : swapRule standIn tablePrefix (c :: (cs ++ q :: rest)) with
  | none => rfl
  | some r =>
    obtain ⟨c', d, after, heq, hc, hd, -⟩ := swapRule_eq_some hrule
    obtain ⟨rfl, hmatch⟩ := List.cons.inj heq
    refine absurd ?_ hfree
    rcases append_eq_append_quote hq hmatch with ⟨rfl, rfl, -⟩ | ⟨between, rfl, -⟩
    · exact ⟨[], _, _, [], rfl, hc, hd⟩
    · exact ⟨[], _, d, between ++ [q], by simp, hc, hd⟩

/-- What comes before a quote stays before it, and the quote stays: a match may end with the quote,
but begins behind it only where the stand-in is found. -/
theorem replaceFrom_up_to_quote {rest : List Char} (hq : q ∉ standIn) (hdollar : '$' ∉ tablePrefix)
    (hrest : swapRule standIn tablePrefix (q :: rest) = none) (cs : List Char) (skip : Nat)
    (hskip : skip ≤ cs.length) :
    ∃ before, replaceFrom (swapRule standIn tablePrefix) skip (cs ++ q :: rest) =
      before ++ q :: replaceFrom (swapRule standIn tablePrefix) 0 rest := by
  -- over the text before the quote, with the rest of a match still to be skipped
  induction cs generalizing skip with
  | nil =>
    obtain rfl : skip = 0 := Nat.le_zero.1 hskip
    refine ⟨[], ?_⟩
    rw [List.nil_append, replaceFrom, hrest]
    rfl
  | cons c cs ih =>
    cases skip with
    | succ skip => exact ih skip (Nat.le_of_succ_le_succ hskip)
    | zero =>
      rw [List.cons_append, replaceFrom]
      cases hrule : swapRule standIn tablePrefix (c :: (cs ++ q :: rest)) with
      | none =>
        obtain ⟨before, hbefore⟩ := ih 0 (Nat.zero_le _)
        exact ⟨c :: before, congrArg (c :: ·) hbefore⟩
      | some r =>
        obtain ⟨c', d, after, heq, -, -, rfl⟩ := swapRule_eq_some hrule
        obtain ⟨rfl, hmatch⟩ := List.cons.inj heq
        dsimp only
        rcases append_eq_append_quote hq hmatch with ⟨rfl, rfl, -⟩ | ⟨between, rfl, -⟩
        · refine ⟨c :: tablePrefix, ?_⟩
          have hlength : cs.length + 1 = (cs ++ [d]).length := by simp
          have hsplit : cs ++ d :: rest = (cs ++ [d]) ++ rest := by simp
          rw [expand_template (inert_of_not_mem hdollar), hsplit, hlength, replaceFrom_length]
          simp
        · obtain ⟨before, hbefore⟩ := ih (standIn.length + 1) (by simp)
          exact ⟨_ ++ before, by rw [hbefore, List.append_assoc]⟩

/-- Where the stand-in is not found, what comes before a quote stays as it is. -/
theorem replaceFrom_of_not_foundIn {cs rest : List Char} (hq : q ∉ standIn)
    (hfree : ¬FoundIn standIn (cs ++ [q])) :
    replaceFrom (swapRule standIn tablePrefix) 0 (cs ++ q :: rest) =
      cs ++ replaceFrom (swapRule standIn tablePrefix) 0 (q :: rest) := by
  induction cs with
  | nil => rfl
  | cons c cs ih =>
    rw [List.cons_append, replaceFrom, swapRule_eq_none_of_quote hq hfree]
    exact congrArg (c :: ·) (ih fun hfound => hfree (hfound.mono (List.suffix_cons c _).isInfix))

/-- The swap keeps the character that a text begins with. -/
theorem head?_replaceFrom (hdollar : '$' ∉ tablePrefix) (cs : List Char) :
    (replaceFrom (swapRule standIn tablePrefix) 0 cs).head? = cs.head? := by
  cases cs with
  | nil => rfl
  | cons c cs =>
    rw [replaceFrom]
    cases hrule : swapRule standIn tablePrefix (c :: cs) with
    | none => rfl
    | some r =>
      obtain ⟨c', d, after, heq, -, -, rfl⟩ := swapRule_eq_some hrule
      obtain ⟨rfl, -⟩ := List.cons.inj heq
      dsimp only
      rw [expand_template (inert_of_not_mem hdollar)]
      rfl

/-- A quote stays, and no other one comes up behind it. -/
theorem replaceFrom_quote {rest : List Char} (htable : tablePrefix ≠ []) (hq : q ∉ tablePrefix)
    (hdollar : '$' ∉ tablePrefix) (hrest : rest.head? ≠ some q) :
    ∃ after, replaceFrom (swapRule standIn tablePrefix) 0 (q :: rest) = q :: after ∧
      after.head? ≠ some q := by
  rw [replaceFrom]
  cases hrule : swapRule standIn tablePrefix (q :: rest) with
  | none => exact ⟨_, rfl, by rw [head?_replaceFrom hdollar]; exact hrest⟩
  | some r =>
    obtain ⟨q', d, after, heq, -, -, rfl⟩ := swapRule_eq_some hrule
    obtain ⟨rfl, -⟩ := List.cons.inj heq
    dsimp only
    rw [expand_template (inert_of_not_mem hdollar)]
    refine ⟨_, rfl, ?_⟩
    obtain ⟨p, ps, rfl⟩ := List.exists_cons_of_ne_nil htable
    intro hhead
    exact hq ((Option.some.inj hhead : p = q) ▸ List.mem_cons_self ..)

end

/-- **A quoted stretch stays.** Where the stand-in is not found between two quotes, the swap keeps
the stretch, and no quote comes up behind it. The stand-in and the prefix must not contain quotes,
and the prefix no dollar sign. -/
theorem apply_around {tablePrefix standIn sql : String} {q : Char} {before body after : List Char}
    (hstandIn : q ∉ standIn.toList) (htable : q ∉ tablePrefix.toList)
    (hdollar : '$' ∉ tablePrefix.toList)
    (hsql : sql.toList = before ++ (q :: (body ++ [q]) ++ after))
    (hafter : after.head? ≠ some q) (hfree : ¬FoundIn standIn.toList (q :: (body ++ [q]))) :
    ∃ before' after', (apply tablePrefix standIn sql).toList =
      before' ++ (q :: (body ++ [q]) ++ after') ∧ after'.head? ≠ some q := by
  unfold apply
  split
  · exact ⟨before, after, hsql, hafter⟩
  · rename_i hbusy
    have hnonempty : tablePrefix.toList ≠ [] := fun hnil =>
      hbusy (.inl (String.toList_eq_nil_iff.1 hnil))
    -- no match begins at the opening quote, none reaches over the closing one from inside, and one
    -- that begins at the closing quote keeps it
    have hshape : sql.toList = before ++ q :: (body ++ q :: after) := by simp [hsql]
    have hopening : swapRule standIn.toList tablePrefix.toList (q :: (body ++ q :: after)) = none :=
      swapRule_eq_none_of_quote hstandIn hfree
    obtain ⟨before', hbefore⟩ := replaceFrom_up_to_quote hstandIn hdollar hopening before 0
      (Nat.zero_le _)
    obtain ⟨after', hclosing, hafter'⟩ := replaceFrom_quote hnonempty htable hdollar hafter
    refine ⟨before', after', ?_, hafter'⟩
    have hbody : replaceFrom (swapRule standIn.toList tablePrefix.toList) 0 (body ++ q :: after) =
        body ++ replaceFrom (swapRule standIn.toList tablePrefix.toList) 0 (q :: after) :=
      replaceFrom_of_not_foundIn hstandIn fun hfound =>
        hfree (hfound.mono (List.suffix_cons q _).isInfix)
    rw [String.toList_ofList, replaceBy, hshape, hbefore, hbody, hclosing]
    simp

end PrefixSwap

end SqlGateway

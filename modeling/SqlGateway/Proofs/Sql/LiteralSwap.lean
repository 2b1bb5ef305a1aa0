import SqlGateway.Proofs.Sql.Swapping

/-!
# Swapping the prefix literally

The swap cuts a statement into matches and characters that stay. A match is the stand-in with the
characters on both sides of it, and since these belong to it as well, two matches that would share
one of them are not both found: the first one is. Each match is replaced by what the template around
the prefix expands to. That is the prefix itself, between the two characters, for every statement
exactly if no dollar sign in it opens a reference or is one half of a pair.

Main definitions:

* `PrefixSwap.Stretch`, `PrefixSwap.Cut`: a statement that is cut into matches and characters.
* `PrefixSwap.Leftmost`, `PrefixSwap.Maximal`: cuts that miss no match, but for those in the way of
  others.
* `PrefixSwap.SwapsLiterally`: nothing happens but that the prefix takes the place of its stand-in.

Main results:

* `PrefixSwap.exists_cut`: what the swap makes of a statement.
* `PrefixSwap.inert_of_replacement`: a prefix that is expanded to itself.
* `PrefixSwap.swaps_literally_iff`: the prefixes that are inserted literally.
-/

namespace SqlGateway.PrefixSwap

open Chars

/-! ## Templates -/

/-- The parts of a match that a template can refer to. -/
def matchParts (standIn : List Char) (before after : Char) : List (List Char) :=
  [before :: standIn ++ [after], [before], [after]]

/-- The end of a template, the reference to the character behind the stand-in. -/
def closing : List Char :=
  "$\x7b2\x7d".toList

/-- What a match is replaced by. -/
def replacement (standIn tablePrefix : List Char) (before after : Char) : List Char :=
  expand (matchParts standIn before after) (template tablePrefix)

/-- A match keeps the character before the stand-in. -/
theorem replacement_eq (standIn tablePrefix : List Char) (before after : Char) :
    replacement standIn tablePrefix before after =
      before :: expand (matchParts standIn before after) (tablePrefix ++ closing) :=
  rfl

/-- A match with another character before it has other parts, and those that stay the same are of
one character at most. -/
theorem part_matchParts (standIn : List Char) {before before' : Char} (hne : before ≠ before')
    (after : Char) (name : List Char) :
    let text := part (matchParts standIn before after) name
    let text' := part (matchParts standIn before' after) name
    text.length = text'.length ∧ (text = text' → text.length ≤ 1) := by
  intro text text'
  unfold text text' part
  split
  · rename_i n _
    split
    · simp
    · -- the first two parts are not the same in both, and the third is one character
      match n with
      | 0 => simp [matchParts, hne]
      | 1 => simp [matchParts]
      | 2 => simp [matchParts]
      | n + 3 => simp [matchParts]
  · simp

/-- What a dollar sign stands for: itself, or a part of the match. -/
def signText (parts : List (List Char)) : Option (List Char) → List Char
  | none => ['$']
  | some name => part parts name

theorem signText_matchParts (standIn : List Char) {before before' : Char} (hne : before ≠ before')
    (after : Char) (sign : Option (List Char)) :
    let text := signText (matchParts standIn before after) sign
    let text' := signText (matchParts standIn before' after) sign
    text.length = text'.length ∧ (text = text' → text.length ≤ 1) := by
  cases sign with
  | none => exact ⟨rfl, fun _ => Nat.le_refl 1⟩
  | some name => exact part_matchParts standIn hne after name

theorem reference_name (parts : List (List Char)) {c : Char} (hc : isReferenceChar c = true)
    (rest : List Char) :
    let name := (c :: rest).takeWhile isReferenceChar
    reference parts (c :: rest) = (part parts name, name.length) := by
  intro name
  have hname : name = c :: rest.takeWhile isReferenceChar := List.takeWhile_cons_of_pos hc
  unfold reference
  split
  · rename_i heq
    obtain rfl := (List.cons.inj heq).1
    exact absurd hc (by decide)
  · rename_i heq
    obtain rfl := (List.cons.inj heq).1
    exact absurd hc (by decide)
  · dsimp only
    rw [if_neg]
    change ¬ name.isEmpty = true
    rw [hname]
    exact Bool.false_ne_true

theorem reference_braced (parts : List (List Char)) {name : List Char} (hname : '}' ∉ name)
    (rest : List Char) :
    reference parts ('{' :: (name ++ '}' :: rest)) = (part parts name, name.length + 2) := by
  have htake : (name ++ '}' :: rest).takeWhile (· ≠ '}') = name := by
    have hinside : ∀ c ∈ name, decide (c ≠ '}') = true := fun c hc =>
      decide_eq_true fun heq => hname (heq ▸ hc)
    rw [List.takeWhile_append_of_pos hinside, List.takeWhile_cons_of_neg (by simp),
      List.append_nil]
  have hlength : name.length < (name ++ '}' :: rest).length := by simp
  simp only [reference, htake, if_pos hlength]

/-- A name that is not in braces ends in the prefix. -/
theorem exists_name {c : Char} (hc : isReferenceChar c = true) (rest : List Char) :
    ∃ name next, c :: rest = name ++ next ∧ name ≠ [] ∧
      ∀ parts, reference parts (c :: rest ++ closing) = (part parts name, name.length) := by
  have htake : (c :: rest ++ closing).takeWhile isReferenceChar =
      (c :: rest).takeWhile isReferenceChar := by
    -- the end of the template begins with a dollar sign, which is part of no name
    have hclosing : closing.takeWhile isReferenceChar = [] := rfl
    rw [List.takeWhile_append, hclosing, List.append_nil]
    split
    · rename_i hall
      exact ((List.takeWhile_prefix _).eq_of_length hall).symm
    · rfl
  refine ⟨(c :: rest).takeWhile isReferenceChar, (c :: rest).dropWhile isReferenceChar,
    List.takeWhile_append_dropWhile.symm, ?_, fun parts => ?_⟩
  · rw [List.takeWhile_cons_of_pos hc]
    exact List.cons_ne_nil _ _
  · rw [← htake]
    exact reference_name parts hc (rest ++ closing)

/-- What becomes of a dollar sign in the prefix, by what follows it there: it stays, or it stands
for something together with characters behind it, which may even use up the end of the template. -/
theorem dollar_cases {rest : List Char} (hrest : rest ≠ []) :
    (∃ c ∈ rest.head?, opensReference c = false) ∨
      (∃ used next sign, rest = used ++ next ∧ used ≠ [] ∧
        ∀ parts, expand parts ('$' :: (rest ++ closing)) =
          signText parts sign ++ expand parts (next ++ closing)) ∨
      ∃ sign, ∀ parts, expand parts ('$' :: (rest ++ closing)) = signText parts sign := by
  obtain ⟨c, rest, rfl⟩ := List.exists_cons_of_ne_nil hrest
  by_cases hplain : opensReference c = false
  · exact .inl ⟨c, rfl, hplain⟩
  right
  have hopens : (c = '$' ∨ c = '{') ∨ isReferenceChar c = true := by
    rw [Bool.not_eq_false] at hplain
    simpa [opensReference] using hplain
  rcases hopens with (rfl | rfl) | hname
  · exact .inl ⟨['$'], rest, none, rfl, List.cons_ne_nil _ _, fun parts => expand_dollar parts _⟩
  · by_cases hbrace : '}' ∈ rest
    · obtain ⟨name, next, rfl, hname⟩ := List.eq_append_cons_of_mem hbrace
      refine .inl ⟨'{' :: (name ++ ['}']), next, some name, by simp, List.cons_ne_nil _ _,
        fun parts => ?_⟩
      have hshape : '{' :: (name ++ '}' :: next) ++ closing =
          '{' :: (name ++ '}' :: (next ++ closing)) := by
        simp
      rw [hshape, expand_dollar, reference_braced parts hname]
      dsimp only
      rw [show '{' :: (name ++ '}' :: (next ++ closing)) =
        ('{' :: (name ++ ['}'])) ++ (next ++ closing) by simp, List.drop_left' (by simp)]
      rfl
    · -- the brace is closed by the end of the template
      have hname : '}' ∉ rest ++ "$\x7b2".toList := by simp [hbrace]
      have hshape : '{' :: rest ++ closing = '{' :: (rest ++ "$\x7b2".toList ++ '}' :: []) := by
        simp [closing]
      refine .inr ⟨some (rest ++ "$\x7b2".toList), fun parts => ?_⟩
      rw [hshape, expand_dollar, reference_braced parts hname]
      dsimp only
      rw [List.drop_of_length_le (by simp)]
      exact List.append_nil _
  · obtain ⟨name, next, hsplit, hnonempty, hreference⟩ := exists_name hname rest
    refine .inl ⟨name, next, some name, hsplit, hnonempty, fun parts => ?_⟩
    rw [expand_dollar, hreference]
    dsimp only
    rw [hsplit, List.append_assoc, List.drop_left]
    rfl

/-! ## Prefixes that stand for themselves -/

/-- An expansion that shows by its length or by its end that the prefix was not expanded to itself,
with the character behind the match after it. -/
def Distorted (expansion tablePrefix : List Char) : Prop :=
  expansion.length ≤ tablePrefix.length ∨ expansion.getLast? = some '}'

namespace Distorted

variable {expansion tablePrefix : List Char}

theorem cons (h : Distorted expansion tablePrefix) (c : Char) :
    Distorted (c :: expansion) (c :: tablePrefix) := by
  rcases h with hshort | hlast
  · exact .inl (Nat.succ_le_succ hshort)
  · refine .inr ?_
    rw [List.getLast?_cons, hlast]
    rfl

/-- A reference is longer than what it stands for. -/
theorem of_reference {text used : List Char} (htext : text.length ≤ 1) (hused : used ≠ [])
    (h : expansion.length = tablePrefix.length + 1 ∨ Distorted expansion tablePrefix) :
    Distorted (text ++ expansion) ('$' :: (used ++ tablePrefix)) := by
  have hpos : 0 < used.length := List.length_pos_iff.2 hused
  have hlength : (text ++ expansion).length = text.length + expansion.length := List.length_append
  have htotal : ('$' :: (used ++ tablePrefix)).length = used.length + tablePrefix.length + 1 := by
    simp
  -- at least two characters are used up, for one at most
  rcases h with hwhole | hshort | hlast
  · exact .inl (by omega)
  · exact .inl (by omega)
  · refine .inr ?_
    rw [List.getLast?_append, hlast]
    rfl

/-- The prefix itself, with a character behind it that is no brace, is not distorted. -/
theorem ne (h : Distorted expansion tablePrefix) {after : Char} (hafter : after ≠ '}') :
    expansion ≠ tablePrefix ++ [after] := by
  rintro rfl
  rcases h with hshort | hlast
  · rw [List.length_append] at hshort
    exact Nat.not_succ_le_self _ hshort
  · simp [hafter] at hlast

end Distorted

section
variable {standIn tablePrefix rest : List Char} {before before' after : Char}

/-- The prefix is expanded alike around two characters before the match. -/
def ExpandedAlike (standIn : List Char) (before before' after : Char) (tablePrefix : List Char) :
    Prop :=
  expand (matchParts standIn before after) (tablePrefix ++ closing) =
    expand (matchParts standIn before' after) (tablePrefix ++ closing)

/-- It is inert, or what it is expanded to shows that it is not. -/
def InertOrDistorted (standIn : List Char) (before after : Char) (tablePrefix : List Char) : Prop :=
  Inert tablePrefix ∨
    Distorted (expand (matchParts standIn before after) (tablePrefix ++ closing)) tablePrefix

/-- A prefix that begins with a dollar sign, given what holds of the shorter ones. -/
theorem inertOrDistorted_dollar (hne : before ≠ before') (hrest : rest ≠ [])
    (ih : ∀ next : List Char, next.length ≤ rest.length →
      ExpandedAlike standIn before before' after next → InertOrDistorted standIn before after next)
    (h : ExpandedAlike standIn before before' after ('$' :: rest)) :
    InertOrDistorted standIn before after ('$' :: rest) := by
  unfold ExpandedAlike at h
  unfold InertOrDistorted
  rw [List.cons_append] at h ⊢
  rcases dollar_cases hrest with ⟨c, hc, hplain⟩ | ⟨used, next, sign, rfl, hused, hexpand⟩ |
    ⟨sign, hexpand⟩
  · -- the dollar sign stays
    obtain ⟨tail, rfl⟩ := List.head?_eq_some_iff.1 hc
    have hstays (parts : List (List Char)) : expand parts ('$' :: (c :: tail ++ closing)) =
        '$' :: expand parts (c :: tail ++ closing) := by
      rw [List.cons_append, expand_dollar, reference_of_not_opens parts hplain]
      rfl
    rw [hstays, hstays] at h
    rw [hstays]
    exact (ih _ (Nat.le_refl _) (List.cons.inj h).2).imp
      (fun hinert => inert_dollar.2 ⟨⟨c, hc, hplain⟩, hinert⟩) fun hdistorted =>
        hdistorted.cons '$'
  · -- it is used up, with some of what follows it
    rw [hexpand, hexpand] at h
    rw [hexpand]
    obtain ⟨hsame, hnarrow⟩ := signText_matchParts standIn hne after sign
    obtain ⟨htext, hnext⟩ := List.append_inj h hsame
    have hshorter : next.length ≤ (used ++ next).length := by
      rw [List.length_append]
      exact Nat.le_add_left _ _
    refine .inr (.of_reference (hnarrow htext) hused ((ih next hshorter hnext).imp_left ?_))
    intro hinert
    have hends : expand (matchParts standIn before after) closing = [after] := rfl
    rw [expand_inert _ hinert, hends]
    exact List.length_append
  · -- and so is all that follows it
    rw [hexpand, hexpand] at h
    rw [hexpand]
    have hnarrow := (signText_matchParts standIn hne after sign).2 h
    exact .inr (.inl (Nat.le_trans hnarrow (Nat.le_add_left 1 _)))

theorem inertOrDistorted_of_expandedAlike (hne : before ≠ before')
    (h : ExpandedAlike standIn before before' after tablePrefix) :
    InertOrDistorted standIn before after tablePrefix := by
  -- a reference uses up several characters of the prefix at once
  induction hlength : tablePrefix.length using Nat.strongRecOn generalizing tablePrefix with
  | ind length ih =>
    subst hlength
    cases tablePrefix with
    | nil => exact .inl (inert_of_not_mem List.not_mem_nil)
    | cons c rest =>
      have hshorter (next : List Char) (hle : next.length ≤ rest.length)
          (hnext : ExpandedAlike standIn before before' after next) :
          InertOrDistorted standIn before after next :=
        ih _ (Nat.lt_succ_of_le hle) hnext rfl
      by_cases hc : c = '$'
      · subst hc
        by_cases hrest : rest = []
        · -- the dollar sign of the closing reference is the other half of a pair
          subst hrest
          exact .inr (.inr rfl)
        · exact inertOrDistorted_dollar hne hrest hshorter h
      · unfold ExpandedAlike at h
        unfold InertOrDistorted
        rw [List.cons_append, expand_cons_of_ne _ hc, expand_cons_of_ne _ hc] at h
        rw [List.cons_append, expand_cons_of_ne _ hc]
        exact (hshorter rest (Nat.le_refl _) (List.cons.inj h).2).imp (inert_cons_of_ne hc).2
          fun hdistorted => hdistorted.cons c

/-- Only an inert prefix is expanded to itself around two characters before the match. -/
theorem inert_of_replacement (hne : before ≠ before') (hafter : after ≠ '}')
    (h : replacement standIn tablePrefix before after = before :: (tablePrefix ++ [after]))
    (h' : replacement standIn tablePrefix before' after = before' :: (tablePrefix ++ [after])) :
    Inert tablePrefix := by
  rw [replacement_eq] at h h'
  have hitself := (List.cons.inj h).2
  have halike : ExpandedAlike standIn before before' after tablePrefix :=
    hitself.trans (List.cons.inj h').2.symm
  exact (inertOrDistorted_of_expandedAlike hne halike).resolve_right
    fun hdistorted => hdistorted.ne hafter hitself

end

/-! ## Cuts -/

/-- A stretch of a statement: a character that stays, or a match, by the characters on both sides of
the stand-in. -/
inductive Stretch where
  | kept (c : Char)
  | swapped (before after : Char)

namespace Stretch

/-- The stretch in the statement. -/
def read (standIn : List Char) : Stretch → List Char
  | kept c => [c]
  | swapped before after => before :: (standIn ++ [after])

theorem length_swapped (standIn : List Char) (before after : Char) :
    ((swapped before after).read standIn).length = standIn.length + 2 := by
  simp [read]

theorem read_swapped_append (standIn : List Char) (before after : Char) (text : List Char) :
    (swapped before after).read standIn ++ text = before :: (standIn ++ after :: text) := by
  simp [read]

/-- No stretch is empty. -/
theorem eq_nil_of_read {standIn : List Char} {cut : List Stretch}
    (h : cut.flatMap (read standIn) = []) : cut = [] := by
  cases cut with
  | nil => rfl
  | cons s cut =>
    have hs := (List.append_eq_nil_iff.1 h).1
    cases s <;> cases hs

/-- The stretch when matches are replaced. -/
def written (replacement : Char → Char → List Char) : Stretch → List Char
  | kept c => [c]
  | swapped before after => replacement before after

end Stretch

section
variable (standIn text : List Char)

/-- The place is that of a match, were it not for others: what stands there is a character that is
part of no word, the stand-in, and a character that is no blank. -/
def FoundAt (place : Nat) : Prop :=
  ∃ c d after, text.drop place = c :: (standIn ++ d :: after) ∧ isWord c = false ∧ isBlank d = false

/-- One of the stretches is a match, and it begins at the place. -/
def SwappedAt (cut : List Stretch) (place : Nat) : Prop :=
  ∃ left c d right, cut = left ++ .swapped c d :: right ∧
    (left.flatMap (Stretch.read standIn)).length = place

/-- The text is cut into stretches, and each match is one. -/
structure Cut (cut : List Stretch) : Prop where
  covers : cut.flatMap (Stretch.read standIn) = text
  placed : ∀ c d, .swapped c d ∈ cut → isWord c = false ∧ isBlank d = false

/-- Two places at which matches would have no character in common. -/
def Apart (place place' : Nat) : Prop :=
  place + (standIn.length + 2) ≤ place' ∨ place' + (standIn.length + 2) ≤ place

/-- A match that has no character in common with another one is not missed. -/
def Maximal (cut : List Stretch) : Prop :=
  ∀ place, FoundAt standIn text place →
    (∀ place', SwappedAt standIn cut place' → place' ≠ place → Apart standIn place place') →
      SwappedAt standIn cut place

/-- Only a match that begins before it keeps another one from being found. -/
def Leftmost (cut : List Stretch) : Prop :=
  ∀ place, FoundAt standIn text place →
    ∃ place' ≤ place, SwappedAt standIn cut place' ∧ place < place' + (standIn.length + 2)

end

section
variable {standIn text : List Char} {cut : List Stretch}

theorem Cut.nil (standIn : List Char) : Cut standIn [] [] :=
  ⟨rfl, fun _ _ h => nomatch h⟩

theorem Cut.kept (h : Cut standIn text cut) (c : Char) : Cut standIn (c :: text) (.kept c :: cut) :=
  ⟨congrArg (c :: ·) h.covers, fun before after hmem =>
    h.placed before after ((List.mem_cons.1 hmem).resolve_left (by simp))⟩

theorem Cut.swapped (h : Cut standIn text cut) {c d : Char} (hc : isWord c = false)
    (hd : isBlank d = false) : Cut standIn (c :: (standIn ++ d :: text)) (.swapped c d :: cut) := by
  refine ⟨?_, fun before after hmem => ?_⟩
  · rw [List.flatMap_cons, h.covers, Stretch.read_swapped_append]
  · rcases List.mem_cons.1 hmem with heq | hmem
    · cases heq
      exact ⟨hc, hd⟩
    · exact h.placed before after hmem

theorem SwappedAt.kept {place : Nat} (h : SwappedAt standIn cut place) (c : Char) :
    SwappedAt standIn (.kept c :: cut) (place + 1) := by
  obtain ⟨left, before, after, right, rfl, rfl⟩ := h
  exact ⟨.kept c :: left, before, after, right, rfl, rfl⟩

theorem SwappedAt.swapped {place : Nat} (h : SwappedAt standIn cut place) (c d : Char) :
    SwappedAt standIn (.swapped c d :: cut) (standIn.length + 2 + place) := by
  obtain ⟨left, before, after, right, rfl, rfl⟩ := h
  refine ⟨.swapped c d :: left, before, after, right, rfl, ?_⟩
  rw [List.flatMap_cons, List.length_append, Stretch.length_swapped]

theorem Leftmost.nil (standIn : List Char) : Leftmost standIn [] [] := by
  rintro place ⟨c, d, after, hfound, -⟩
  rw [List.drop_nil] at hfound
  cases hfound

theorem Leftmost.kept (h : Leftmost standIn text cut) {c : Char}
    (hnone : ¬ FoundAt standIn (c :: text) 0) : Leftmost standIn (c :: text) (.kept c :: cut) := by
  intro place hfound
  cases place with
  | zero => exact absurd hfound hnone
  | succ place =>
    obtain ⟨place', hle, hswapped, hlt⟩ := h place hfound
    exact ⟨place' + 1, Nat.succ_le_succ hle, hswapped.kept c, by omega⟩

/-- What is found in the new match is kept by it, and what is found behind it was found before. -/
theorem Leftmost.swapped (h : Leftmost standIn text cut) (c d : Char) :
    Leftmost standIn (c :: (standIn ++ d :: text)) (.swapped c d :: cut) := by
  intro place hfound
  by_cases hplace : place < standIn.length + 2
  · exact ⟨0, Nat.zero_le _, ⟨[], c, d, cut, rfl, rfl⟩, by omega⟩
  · obtain ⟨gap, rfl⟩ := Nat.exists_eq_add_of_le (Nat.le_of_not_lt hplace)
    have hdrop : (c :: (standIn ++ d :: text)).drop (standIn.length + 2 + gap) = text.drop gap := by
      rw [← Stretch.read_swapped_append, ← List.drop_drop,
        List.drop_left' (Stretch.length_swapped ..)]
    unfold FoundAt at hfound
    rw [hdrop] at hfound
    obtain ⟨place', hle, hswapped, hlt⟩ := h gap hfound
    exact ⟨_, by omega, hswapped.swapped c d, by omega⟩

theorem Leftmost.maximal (h : Leftmost standIn text cut) : Maximal standIn text cut := by
  intro place hfound hfree
  obtain ⟨place', hle, hswapped, hlt⟩ := h place hfound
  by_cases heq : place' = place
  · exact heq ▸ hswapped
  · rcases hfree place' hswapped heq with hapart | hapart <;> omega

end

/-! ## What the swap makes of a statement -/

section
variable {standIn tablePrefix : List Char}

theorem swapRule_match {c d : Char} (hc : isWord c = false) (hd : isBlank d = false)
    (after : List Char) : swapRule standIn tablePrefix (c :: (standIn ++ d :: after)) =
      some ⟨standIn.length + 2, replacement standIn tablePrefix c d⟩ := by
  have hlead : afterLead? standIn (standIn ++ d :: after) = some (d :: after) :=
    afterLead?_eq_some_iff.2 rfl
  rw [swapRule, if_neg (Bool.eq_false_iff.1 hc), hlead]
  dsimp only
  rw [if_neg (Bool.eq_false_iff.1 hd)]
  rfl

theorem replaceFrom_match {c d : Char} (hc : isWord c = false) (hd : isBlank d = false)
    (after : List Char) :
    replaceFrom (swapRule standIn tablePrefix) 0 (c :: (standIn ++ d :: after)) =
      replacement standIn tablePrefix c d ++
        replaceFrom (swapRule standIn tablePrefix) 0 after := by
  have hlength : standIn.length + 1 = (standIn ++ [d]).length := by simp
  have hsplit : standIn ++ d :: after = (standIn ++ [d]) ++ after := by simp
  rw [replaceFrom, swapRule_match hc hd]
  dsimp only
  rw [hsplit, hlength, replaceFrom_length]

/-- The swap goes over a statement from left to right, and takes each match that it comes to. -/
theorem exists_cut (standIn tablePrefix text : List Char) :
    ∃ cut, Cut standIn text cut ∧ Leftmost standIn text cut ∧
      replaceFrom (swapRule standIn tablePrefix) 0 text =
        cut.flatMap (Stretch.written (replacement standIn tablePrefix)) := by
  -- what follows a match is shorter by all of it
  induction hlength : text.length using Nat.strongRecOn generalizing text with
  | ind length ih =>
    subst hlength
    cases text with
    | nil => exact ⟨[], .nil standIn, .nil standIn, rfl⟩
    | cons c rest =>
      cases hrule : swapRule standIn tablePrefix (c :: rest) with
      | none =>
        obtain ⟨cut, hcut, hleftmost, hwritten⟩ := ih _ (Nat.lt_succ_self _) rest rfl
        have hnone : ¬ FoundAt standIn (c :: rest) 0 := by
          rintro ⟨c', d, after, heq, hc, hd⟩
          rw [List.drop_zero] at heq
          rw [heq, swapRule_match hc hd] at hrule
          cases hrule
        refine ⟨.kept c :: cut, hcut.kept c, hleftmost.kept hnone, ?_⟩
        rw [replaceFrom, hrule]
        exact congrArg (c :: ·) hwritten
      | some r =>
        obtain ⟨c', d, after, heq, hc, hd, -⟩ := swapRule_eq_some hrule
        rw [heq]
        have hshorter : after.length < (c :: rest).length := by
          rw [heq]
          simp only [List.length_cons, List.length_append]
          omega
        obtain ⟨cut, hcut, hleftmost, hwritten⟩ := ih _ hshorter after rfl
        refine ⟨.swapped c' d :: cut, hcut.swapped hc hd, hleftmost.swapped c' d, ?_⟩
        rw [replaceFrom_match hc hd, hwritten]
        rfl

end

/-! ## Prefixes that are inserted as they are -/

/-- Some of the places where the stand-in is found have the prefix instead, the characters on both
sides are still there, and so is everything else. -/
def SwapsLiterally (tablePrefix standIn text result : List Char) : Prop :=
  ∃ cut, Cut standIn text cut ∧ Maximal standIn text cut ∧
    result = cut.flatMap (Stretch.written fun before after => before :: (tablePrefix ++ [after]))

/-- Of a statement that is one match there is one cut. -/
theorem SwapsLiterally.eq_of_match {tablePrefix standIn result : List Char} {c d : Char}
    (h : SwapsLiterally tablePrefix standIn (c :: (standIn ++ [d])) result)
    (hc : isWord c = false) (hd : isBlank d = false) : result = c :: (tablePrefix ++ [d]) := by
  obtain ⟨cut, hcut, hmaximal, rfl⟩ := h
  have hcovers := hcut.covers
  -- any match in it begins at its beginning, for want of room
  have hplace {place : Nat} (hswapped : SwappedAt standIn cut place) : place = 0 := by
    obtain ⟨left, before, after, right, rfl, rfl⟩ := hswapped
    have hlength := congrArg List.length hcovers
    simp only [List.flatMap_append, List.flatMap_cons, Stretch.length_swapped, List.length_append,
      List.length_cons, List.length_nil] at hlength
    omega
  have hfound : FoundAt standIn (c :: (standIn ++ [d])) 0 := ⟨c, d, [], rfl, hc, hd⟩
  obtain ⟨left, before, after, right, rfl, hleft⟩ :=
    hmaximal 0 hfound fun place' hswapped hne => absurd (hplace hswapped) hne
  obtain rfl := Stretch.eq_nil_of_read (List.length_eq_zero_iff.1 hleft)
  rw [List.nil_append, List.flatMap_cons, Stretch.read, List.cons_append, List.append_assoc]
    at hcovers
  obtain ⟨rfl, htail⟩ := List.cons.inj hcovers
  obtain ⟨hafter, hright⟩ := List.cons.inj (List.append_cancel_left htail)
  obtain rfl := Stretch.eq_nil_of_read hright
  rw [hafter]
  exact List.append_nil _

/-- A prefix as long as its stand-in leaves the length of a statement as it is. -/
theorem SwapsLiterally.length_eq {tablePrefix standIn text result : List Char}
    (h : SwapsLiterally tablePrefix standIn text result)
    (hlength : tablePrefix.length = standIn.length) : result.length = text.length := by
  obtain ⟨cut, hcut, -, rfl⟩ := h
  rw [← hcut.covers, List.length_flatMap, List.length_flatMap]
  congr 2
  funext s
  cases s with
  | kept c => rfl
  | swapped before after => simp [Stretch.read, Stretch.written, hlength]

/-- **The prefix in the place of its stand-in.** The swap cuts a statement into matches and
characters that stay, taking matches from left to right, and expands the template in the place of
each match. Every statement is swapped literally exactly if the prefix is inert. -/
theorem swaps_literally_iff {tablePrefix standIn : String} (htable : tablePrefix ≠ "")
    (hstandIn : standIn ≠ "") (hne : tablePrefix ≠ standIn) :
    (∀ sql : String, ∃ cut, Cut standIn.toList sql.toList cut ∧
      Leftmost standIn.toList sql.toList cut ∧
      (apply tablePrefix standIn sql).toList =
        cut.flatMap (Stretch.written (replacement standIn.toList tablePrefix.toList))) ∧
      ((∀ sql : String, SwapsLiterally tablePrefix.toList standIn.toList sql.toList
        (apply tablePrefix standIn sql).toList) ↔ Inert tablePrefix.toList) := by
  have hswap (sql : String) : (apply tablePrefix standIn sql).toList =
      replaceFrom (swapRule standIn.toList tablePrefix.toList) 0 sql.toList := by
    rw [apply, if_neg (by simp [htable, hstandIn, hne]), String.toList_ofList]
    rfl
  refine ⟨fun sql => hswap sql ▸ exists_cut .., fun hliteral => ?_, fun hinert sql => ?_⟩
  · -- two statements that are one match each, with different characters before the stand-in
    have hmatch {c : Char} (hc : isWord c = false) :
        replacement standIn.toList tablePrefix.toList c 'a' =
          c :: (tablePrefix.toList ++ ['a']) := by
      have ha : isBlank 'a' = false := by decide
      have hone := hliteral (String.ofList (c :: (standIn.toList ++ ['a'])))
      rw [hswap, String.toList_ofList, replaceFrom_match hc ha] at hone
      exact (List.append_nil _).symm.trans (hone.eq_of_match hc ha)
    exact inert_of_replacement (by decide : ' ' ≠ '.') (by decide : 'a' ≠ '}')
      (hmatch (by decide)) (hmatch (by decide))
  · obtain ⟨cut, hcut, hleftmost, hwritten⟩ :=
      exists_cut standIn.toList tablePrefix.toList sql.toList
    -- the same cut, in which every match is now replaced by the prefix itself
    refine ⟨cut, hcut, hleftmost.maximal, ?_⟩
    have hreplacement : replacement standIn.toList tablePrefix.toList =
        fun before after => before :: (tablePrefix.toList ++ [after]) :=
      funext fun before => funext fun after => expand_template hinert _ before after
    rw [hswap, hwritten, hreplacement]

/-- A dollar sign before a character that is part of no name is inserted like any other. -/
theorem swaps_literally_iff_dashed :
    "a$-" ≠ "" ∧ "t.*" ≠ "" ∧ "a$-" ≠ "t.*" ∧
      SwapsLiterally "a$-".toList "t.*".toList "SELECT t.*x, t.*".toList
        (apply "a$-" "t.*" "SELECT t.*x, t.*").toList := by
  have htable : "a$-" ≠ "" := by decide
  have hstandIn : "t.*" ≠ "" := by decide
  have hne : "a$-" ≠ "t.*" := by decide
  have hinert : Inert "a$-".toList := by
    refine (inert_cons_of_ne (by decide)).2 (inert_dollar.2 ⟨⟨'-', rfl, by decide⟩, ?_⟩)
    exact inert_of_not_mem (by decide)
  exact ⟨htable, hstandIn, hne, (swaps_literally_iff htable hstandIn hne).2.2 hinert _⟩

/-- A dollar sign at the end of the prefix spoils the reference behind it, and the table loses its
first letter. -/
theorem swap_spoiled_by_dollar :
    "app$" ≠ "" ∧ "tbl_" ≠ "" ∧ "app$" ≠ "tbl_" ∧
      apply "app$" "tbl_" "SELECT * FROM tbl_users" = "SELECT * FROM app$\x7b2\x7dsers" ∧
      ¬ SwapsLiterally "app$".toList "tbl_".toList "SELECT * FROM tbl_users".toList
        (apply "app$" "tbl_" "SELECT * FROM tbl_users").toList := by
  have hspoiled : apply "app$" "tbl_" "SELECT * FROM tbl_users" =
      "SELECT * FROM app$\x7b2\x7dsers" := by
    decide +kernel
  refine ⟨by decide, by decide, by decide, hspoiled, fun hliteral => ?_⟩
  have hlength := hliteral.length_eq rfl
  rw [hspoiled] at hlength
  exact absurd hlength (by decide)

end SqlGateway.PrefixSwap

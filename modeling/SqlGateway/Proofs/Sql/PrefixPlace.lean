import SqlGateway.Proofs.Sql.Protection

/-!
# Where the prefix goes

On its way through protection an identifier is trimmed, squeezed, cut at its dots, stripped of its
quotes, prefixed, put together and quoted again, and quotes that got doubled are dropped. None of
that loses or doubles any text: with the quotes left out, what comes of an identifier is what went
in, with the prefix on one segment or on none, and the alias after it.

The definitions say which segment that is and what becomes of it, without looking at how protection
finds it. Segments are compared and prefixed as they are without quotes.

Main definitions:

* `Identifier.Rules.withPrefix`: what the prefix makes of a segment.
* `Identifier.Rules.AliasLed`: a path begins with an alias.
* `Identifier.Rules.place?`: the segment that takes the prefix, if there is one.
* `Identifier.Rules.placed`: the segments with the prefix in its place.

Main result:

* `Identifier.Rules.strip_protect`: protection puts the prefix in its place, adds and drops quotes,
  and does nothing else.
-/

namespace SqlGateway.Identifier.Rules

/-! ## The place of the prefix -/

/-- The prefix that stands for the table prefix is at the beginning of a segment. -/
def Swaps (r : Rules) (segment : List Char) : Prop :=
  r.swapPrefix ≠ "" ∧ r.swapPrefix.toList <+: segment

instance (r : Rules) (segment : List Char) : Decidable (r.Swaps segment) :=
  inferInstanceAs (Decidable (_ ∧ _))

/-- A segment with the prefix. It replaces the prefix that stands for it, is left where it is
already, and goes in front of all else. -/
def withPrefix (r : Rules) (segment : List Char) : List Char :=
  if r.Swaps segment then r.tablePrefix.toList ++ segment.drop r.swapPrefix.toList.length
  else if r.tablePrefix.toList <+: segment then segment
  else r.tablePrefix.toList ++ segment

/-- The index of the table in a path of so many segments: the first of two, the second of three, the
third of more, or in each case the next one where no column is expected. -/
def tablePlace (u : Use) (count : Nat) : Nat :=
  let beforeColumn := match count with
    | 2 => 0
    | 3 => 1
    | _ => 2
  if u.endsInColumn then beforeColumn else beforeColumn + 1

/-- The segments are those of a path that begins with a known alias. -/
def AliasLed (u : Use) (segments : List (List Char)) : Prop :=
  2 ≤ segments.length ∧ String.ofList (segments.headD []) ∈ u.aliases

instance (u : Use) (segments : List (List Char)) : Decidable (AliasLed u segments) :=
  inferInstanceAs (Decidable (_ ∧ _))

/-- The segment that takes the prefix, by its index. A path takes it where the table is, unless it
begins with an alias or has no such segment. A name takes it if it is a table, or if it begins with
the prefix that stands for the table prefix. -/
def place? (r : Rules) (u : Use) (segments : List (List Char)) : Option Nat :=
  if r.tablePrefix = "" ∨ AliasLed u segments then none
  else match segments with
    | [] => none
    | [name] => if r.Swaps name ∨ u.bareIsTable then some 0 else none
    | _ =>
      let index := tablePlace u segments.length
      if index < segments.length then some index else none

/-- The segments with the prefix in its place. -/
def placed (r : Rules) (u : Use) (segments : List (List Char)) : List (List Char) :=
  match r.place? u segments with
  | none => segments
  | some index => segments.modify index r.withPrefix

/-! ## Segments with the prefix -/

theorem swaps_iff {r : Rules} {segment : List Char} :
    r.Swaps segment ↔ (r.afterSwap? segment).isSome = true := by
  unfold Swaps afterSwap?
  split
  · rename_i hnone
    exact iff_of_false (fun h => h.1 hnone) Bool.false_ne_true
  · rename_i hswap
    rw [and_iff_right hswap]
    exact Chars.startsWith_iff.symm

theorem prefixed_eq_withPrefix (r : Rules) : r.prefixed = r.withPrefix := by
  funext segment
  unfold prefixed withPrefix
  cases hafter : r.afterSwap? segment with
  | none =>
    have hswaps : ¬r.Swaps segment := by
      rw [swaps_iff, hafter]
      exact Bool.false_ne_true
    simp only [if_neg hswaps, Chars.startsWith_iff]
  | some rest =>
    have hswaps : r.Swaps segment := by
      rw [swaps_iff, hafter]
      rfl
    -- what follows the other prefix is what is left without it
    have hsegment : segment = r.swapPrefix.toList ++ rest := by
      unfold afterSwap? at hafter
      rw [if_neg hswaps.1] at hafter
      exact Chars.afterLead?_eq_some_iff.1 hafter
    rw [if_pos hswaps, hsegment, List.drop_left]

theorem tablePlace_eq (u : Use) {count : Nat} (h : 2 ≤ count) :
    tablePlace u count = tableIndex u count := by
  unfold tablePlace tableIndex
  -- all paths of four segments or more are alike
  match count, h with
  | 2, _ => cases u.endsInColumn <;> rfl
  | 3, _ => cases u.endsInColumn <;> rfl
  | n + 4, _ =>
    have hlong : 4 ≤ n + 4 := by omega
    rw [if_pos hlong]
    cases u.endsInColumn <;> rfl

theorem placed_of_aliasLed (r : Rules) {u : Use} {segments : List (List Char)}
    (h : AliasLed u segments) : r.placed u segments = segments := by
  unfold placed place?
  rw [if_pos (.inr h)]

/-- The segment of a path that protection prefixes is the one whose place it is. -/
theorem placed_path (r : Rules) {u : Use} {segments : List (List Char)}
    (hlength : 2 ≤ segments.length) (hled : ¬AliasLed u segments) :
    r.placed u segments = r.prefixedParts u segments := by
  have hplace := tablePlace_eq u hlength
  unfold placed place? prefixedParts
  rw [prefixed_eq_withPrefix]
  by_cases hnone : r.tablePrefix = ""
  · simp only [hnone, true_or, ↓reduceIte]
  match segments, hlength with
  | first :: next :: rest, _ =>
    simp only [hnone, hled, or_self, ↓reduceIte, hplace]
    by_cases hindex : tableIndex u (first :: next :: rest).length < (first :: next :: rest).length
    · simp only [hindex, ↓reduceIte]
    · -- there is no such segment, so nothing is changed
      simp only [hindex, ↓reduceIte, List.modify_eq_self (Nat.le_of_not_lt hindex)]

theorem placed_name (r : Rules) (u : Use) (name : List Char) :
    r.placed u [name] = [r.bareName u name] := by
  have hled : ¬AliasLed u [name] := fun h => absurd h.1 (by simp)
  unfold placed place? bareName
  rw [prefixed_eq_withPrefix]
  -- either it is its own place or there is none
  by_cases hnone : r.tablePrefix = ""
  · simp only [hnone, true_or, ne_eq, not_true_eq_false, false_and, ↓reduceIte]
  by_cases htable : (r.afterSwap? name).isSome ∨ u.bareIsTable
  · simp only [hnone, hled, or_self, swaps_iff, htable, ne_eq, not_false_eq_true, and_self,
      ↓reduceIte]
    rfl
  · simp only [hnone, hled, or_self, swaps_iff, htable, and_false, ↓reduceIte]

/-- Segments without quotes take the prefix without quotes. -/
theorem strip_placed {r : Rules} (hunquoted : ∀ c ∈ r.tablePrefix.toList, r.quote ≠ some c)
    (u : Use) {segments : List (List Char)} (h : ∀ part ∈ segments, r.strip part = part) :
    ∀ part ∈ r.placed u segments, r.strip part = part := by
  unfold placed
  cases r.place? u segments with
  | none => exact h
  | some index =>
    rw [← prefixed_eq_withPrefix]
    exact forall_mem_modify h (fun part hpart => strip_prefixed hunquoted (h part hpart)) index

/-! ## Words -/

theorem quoteChars_star (r : Rules) : r.quoteChars ['*'] = ['*'] := by
  unfold quoteChars
  cases r.quote with
  | none => rfl
  | some q => rfl

/-- What protection makes of a word that is no expression, told by its segments. -/
theorem protectWord_eq (r : Rules) (u : Use) (quoting : Bool) {word : List Char}
    (hparen : '(' ∉ word) :
    r.protectWord u quoting word =
      if AliasLed u (r.segments word) then r.aliasPath quoting (r.segments word)
      else r.tablePath quoting (r.placed u (r.segments word)) := by
  unfold protectWord
  rw [if_neg hparen]
  split
  · rename_i hpath
    have hlength : 2 ≤ (r.segments word).length := two_le_length_segments_iff.2 hpath
    rw [protectPath_eq]
    by_cases halias : String.ofList ((r.segments word).headD []) ∈ u.aliases
    · rw [if_pos halias, if_pos ⟨hlength, halias⟩]
    · have hled : ¬AliasLed u (r.segments word) := fun h => halias h.2
      rw [if_neg halias, if_neg hled, placed_path r hlength hled]
  · -- a name is a path of one segment, and a star has no quotes either way
    rename_i hname
    have hled : ¬AliasLed u [r.strip word] := fun h => absurd h.1 (by simp)
    rw [protectName_eq, segments_of_not_mem hname, if_neg hled, placed_name, tablePath,
      path_singleton]
    cases quoting with
    | false => rfl
    | true =>
      by_cases hstar : r.bareName u (r.strip word) = ['*']
      · simp only [hstar, ne_eq, not_true_eq_false, and_false, ↓reduceIte, quoteChars_star]
      · simp only [hstar, ne_eq, not_false_eq_true, and_self, ↓reduceIte]

/-- Without quotes, what protection makes of a word are its segments with the prefix in its
place. -/
theorem strip_protectWord {r : Rules} (hdot : r.quote ≠ some '.')
    (hunquoted : ∀ c ∈ r.tablePrefix.toList, r.quote ≠ some c) (u : Use) (quoting : Bool)
    {word : List Char} (hparen : '(' ∉ word) :
    r.strip (r.protectWord u quoting word) = path (r.placed u (r.segments word)) := by
  have hsegments := (r.bare_segments word).strip
  rw [protectWord_eq r u quoting hparen]
  split
  · rename_i hled
    rw [strip_aliasPath hdot hsegments, placed_of_aliasLed r hled]
  · exact strip_tablePath hdot (strip_placed hunquoted u hsegments) quoting

/-! ## Identifiers -/

/-- **What protection makes of an identifier**, quotes left out: its segments with the prefix in its
place, and the alias after them. Nothing is lost or doubled on the way, and at most one segment is
touched. -/
theorem strip_protect {r : Rules} (hdot : r.quote ≠ some '.')
    (hunquoted : ∀ c ∈ r.tablePrefix.toList, r.quote ≠ some c) (u : Use) {item : String}
    (hparen : '(' ∉ (cut item.toList).1) :
    r.strip (r.protect u item).toList =
      path (r.placed u (Chars.splitOn '.' (r.strip (cut item.toList).1))) ++
        r.strip (cut item.toList).2 := by
  unfold protect
  -- the alias goes along as it is, so its quotes are still there to be left out
  rw [String.toList_ofList, protectChars_eq, strip_append,
    strip_protectWord hdot hunquoted u _ hparen, segments, map_strip_splitOn hdot]

/-- A path with blanks around it, quotes in it and an alias after it. Its table is the second of
three segments, and has the prefix that is replaced. -/
theorem strip_protect_swapped :
    let r : Rules := ⟨"app_", "tbl_", some '\u0060', true⟩
    let u : Use := ⟨["u"], false, none, true⟩
    let item := " main.`tbl_users`.id \t `x` "
    r.quote ≠ some '.' ∧ (∀ c ∈ r.tablePrefix.toList, r.quote ≠ some c) ∧
      '(' ∉ (cut item.toList).1 ∧
      r.place? u ["main".toList, "tbl_users".toList, "id".toList] = some 1 ∧
      r.strip (r.protect u item).toList = "main.app_users.id x".toList := by
  have hunquoted : ∀ c ∈ "app_".toList, some '\u0060' ≠ some c :=
    List.all_iff_forall_prop.1 (by decide)
  have hparen : '(' ∉ (cut " main.`tbl_users`.id \t `x` ".toList).1 := by decide +kernel
  refine ⟨by decide, hunquoted, hparen, by decide +kernel, ?_⟩
  rw [strip_protect (by decide) hunquoted _ hparen]
  decide +kernel

end SqlGateway.Identifier.Rules

import SqlGateway.Proofs.Sql.Segments

/-!
# Quotes around a path

Quotes are put around a path as a whole, by what they do to its dots, and runs of quotes are
squeezed afterwards. Here they are told segment by segment. There are two cases. Where no segment
but the first begins with a star, each segment gets quotes on both sides. Where one does, whichever
it is, the first segment gets quotes on both sides, the last one gets none, and those between them
get a quote at their end alone.

Main definition:

* `Identifier.Rules.quoted`: a name in quotes.

Main results:

* `Identifier.Rules.quoteSegments_path`, `Identifier.Rules.quoteSegments_starred`: the two cases.
-/

namespace SqlGateway.Identifier.Rules

/-! ## Names -/

/-- A name in quotes. One that is empty gets a single quote. -/
def quoted (q : Char) (name : List Char) : List Char :=
  Chars.squeezeChar q (q :: name ++ [q])

theorem head?_quoted (q : Char) (name : List Char) : (quoted q name).head? = some q := by
  unfold quoted
  rw [Chars.head?_squeezeChar]
  rfl

theorem quoteSegments_ne_nil (q : Char) (item : List Char) : quoteSegments q item ≠ [] := by
  rw [quoteSegments_eq]
  split
  · rename_i hstar
    rw [hstar]
    exact List.cons_ne_nil _ _
  · -- squeezing keeps the quote in front
    intro hnil
    have hhead := congrArg List.head? hnil
    rw [Chars.head?_squeezeChar] at hhead
    split at hhead
    · cases hhead
    split at hhead <;> cases hhead

theorem quoteSegments_name {q : Char} {name : List Char} (hdot : '.' ∉ name)
    (hstar : name ≠ ['*']) : quoteSegments q name = quoted q name := by
  rw [quoteSegments_eq, if_neg hstar, Chars.occursIn_of_not_mem hdot, if_neg hdot]
  rfl

/-! ## Between the segments -/

/-- What comes before a path is a part of its first segment. -/
theorem cons_path (c : Char) (part : List Char) (parts : List (List Char)) :
    c :: path (part :: parts) = path ((c :: part) :: parts) := by
  cases parts with
  | nil => rw [path_singleton, path_singleton]
  | cons next rest =>
    rw [path_cons_cons, path_cons_cons]
    rfl

theorem squeezeChar_path {q : Char} (hq : q ≠ '.') (parts : List (List Char)) :
    Chars.squeezeChar q (path parts) = path (parts.map (Chars.squeezeChar q)) := by
  induction parts with
  | nil => rfl
  | cons part parts ih =>
    cases parts with
    | nil => rw [path_singleton, List.map_singleton, path_singleton]
    | cons next rest =>
      rw [path_cons_cons, Chars.squeezeChar_append hq.symm, ih]
      exact (path_cons_cons _ _ _).symm

/-- Quotes at both sides of each dot, and at both ends. -/
theorem intercalate_both (q : Char) {parts : List (List Char)} (hne : parts ≠ []) :
    q :: [q, '.', q].intercalate parts ++ [q] = path (parts.map fun part => q :: part ++ [q]) := by
  induction parts with
  | nil => exact absurd rfl hne
  | cons part parts ih =>
    cases parts with
    | nil => rw [List.intercalate_singleton, List.map_singleton, path_singleton]
    | cons next rest =>
      have hrest := List.cons_ne_nil next rest
      rw [List.map_cons, path_cons _ (List.map_eq_nil_iff.not.2 hrest), ← ih hrest,
        List.intercalate_cons_cons]
      simp

/-- Quotes before each dot. -/
theorem intercalate_closing (q : Char) (init : List (List Char)) (last : List Char) :
    [q, '.'].intercalate (init ++ [last]) = path (init.map (· ++ [q]) ++ [last]) := by
  induction init with
  | nil => rw [List.nil_append, List.intercalate_singleton, List.map_nil, List.nil_append,
      path_singleton]
  | cons part init ih =>
    have hne (parts : List (List Char)) : parts ++ [last] ≠ [] :=
      List.append_ne_nil_of_right_ne_nil _ (List.cons_ne_nil _ _)
    rw [List.cons_append, List.intercalate_cons_of_ne_nil (hne init), ih, List.map_cons,
      List.cons_append, path_cons _ (hne _)]
    simp

/-- The text of a star after a dot is in a path if a segment but the first begins with a star. -/
theorem occursIn_star_iff {parts : List (List Char)} (hdot : ∀ part ∈ parts, '.' ∉ part) :
    Chars.occursIn ['.', '*'] (path parts) = true ↔ ∃ part ∈ parts.tail, part.head? = some '*' := by
  induction parts with
  | nil => simp [path, Chars.occursIn]
  | cons part parts ih =>
    obtain ⟨hpart, hparts⟩ := List.forall_mem_cons.1 hdot
    cases parts with
    | nil =>
      rw [path_singleton, Chars.occursIn_of_not_mem hpart]
      simp
    | cons next rest =>
      -- an empty segment is followed by its dot, so it does not begin with a star either
      have hhead : (path (next :: rest)).head? = some '*' ↔ next.head? = some '*' := by
        cases rest with
        | nil => rw [path_singleton]
        | cons after rest =>
          rw [path_cons_cons, List.head?_append]
          cases next <;> simp
      rw [path_cons_cons, Chars.occursIn_pair_iff hpart, hhead, ih hparts]
      simp

/-! ## Paths -/

/-- Where there is a later segment there is a last one. -/
theorem exists_first_last {parts : List (List Char)} {p : List Char → Prop}
    (h : ∃ part ∈ parts.tail, p part) : ∃ first middle last, parts = first :: middle ++ [last] := by
  obtain ⟨part, hpart, -⟩ := h
  match parts, hpart with
  | first :: rest, hpart =>
    obtain rfl | ⟨middle, last, rfl⟩ := rest.eq_nil_or_concat'
    · cases hpart
    · exact ⟨first, middle, last, rfl⟩

theorem path_eq_star_iff {parts : List (List Char)} :
    path parts = ['*'] ↔ parts = [['*']] := by
  match parts with
  | [] => simp [path]
  | [part] => simp [path_singleton]
  | part :: next :: rest =>
    refine iff_of_false (fun h => ?_) fun h => by simp at h
    have hdot : '.' ∈ path (part :: next :: rest) := by
      rw [path_cons_cons]
      simp
    rw [h] at hdot
    exact absurd hdot (by decide)

/-- Without stars at the beginning of later segments, each segment gets its quotes. -/
theorem quoteSegments_path {q : Char} (hq : q ≠ '.') {parts : List (List Char)} (hne : parts ≠ [])
    (hdot : ∀ part ∈ parts, '.' ∉ part) (hstar : parts ≠ [['*']])
    (hstars : ∀ part ∈ parts.tail, part.head? ≠ some '*') :
    quoteSegments q (path parts) = path (parts.map (quoted q)) := by
  have hbare : path parts ≠ ['*'] := fun h => hstar (path_eq_star_iff.1 h)
  have hnone : ¬Chars.occursIn ['.', '*'] (path parts) = true := fun h => by
    obtain ⟨part, hpart, hhead⟩ := (occursIn_star_iff hdot).1 h
    exact hstars part hpart hhead
  match parts, hne with
  | [part], _ =>
    rw [path_singleton, quoteSegments_name (hdot part (List.mem_singleton_self _)) fun h =>
      hstar (by rw [h]), List.map_singleton, path_singleton]
  | part :: next :: rest, hne =>
    have hmem : '.' ∈ path (part :: next :: rest) := by
      rw [path_cons_cons]
      simp
    rw [quoteSegments_eq]
    rw [if_neg hbare, if_neg hnone, if_pos hmem]
    -- quotes at both sides of each dot are quotes around each segment, squeezed one by one
    show Chars.squeezeChar q
      (q :: Chars.replaceChar '.' [q, '.', q] (['.'].intercalate _) ++ [q]) = _
    rw [Chars.replaceChar_intercalate hdot, intercalate_both q hne, squeezeChar_path hq,
      List.map_map]
    rfl

/-- A star at the beginning of a later segment leaves the last segment without quotes, and those
before it without a quote in front. -/
theorem quoteSegments_starred {q : Char} (hq : q ≠ '.') {first last : List Char}
    (middle : List (List Char)) (hdot : ∀ part ∈ first :: middle ++ [last], '.' ∉ part)
    (hstar : ∃ part ∈ middle ++ [last], part.head? = some '*') :
    quoteSegments q (path (first :: middle ++ [last])) =
      path (quoted q first :: middle.map (fun part => Chars.squeezeChar q (part ++ [q])) ++
        [Chars.squeezeChar q last]) := by
  have hbare : path (first :: middle ++ [last]) ≠ ['*'] := fun h => by
    simpa using path_eq_star_iff.1 h
  rw [quoteSegments_eq, if_neg hbare, if_pos ((occursIn_star_iff hdot).2 hstar)]
  show Chars.squeezeChar q (q :: Chars.replaceChar '.' [q, '.'] (['.'].intercalate _)) = _
  -- the quote in front of the path is that of its first segment
  rw [Chars.replaceChar_intercalate hdot, intercalate_closing, List.map_cons, List.cons_append,
    cons_path, squeezeChar_path hq, List.map_cons, List.map_append, List.map_map,
    List.map_singleton]
  rfl

end SqlGateway.Identifier.Rules

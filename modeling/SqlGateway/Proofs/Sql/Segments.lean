import SqlGateway.Proofs.Text.Runs
import SqlGateway.Sql.Identifier

/-!
# Segments of an identifier

Quotes come and go; what an identifier is made of is its segments without them. Quoting changes no
segment, and a segment that has taken the prefix keeps it.

Main definitions:

* `Identifier.Rules.Clear`: quote and prefixes that are no part of what cuts an identifier.
* `Identifier.Rules.segments`: the segments of a text, without quotes.

Main results:

* `Identifier.Rules.segments_eq`: a text has the segments that it was put together from.
* `Identifier.Rules.prefixed_prefixed`: the prefix is taken once.
-/

namespace SqlGateway.Identifier

/-- The rounds that collapse quotes told by squeezing. -/
theorem quoteSegments_eq (q : Char) (item : List Char) :
    quoteSegments q item =
      if item = ['*'] then item
      else Chars.squeezeChar q
        (if Chars.occursIn ['.', '*'] item then q :: Chars.replaceChar '.' [q, '.'] item
        else if '.' ∈ item then q :: Chars.replaceChar '.' [q, '.', q] item ++ [q]
        else q :: item ++ [q]) := by
  rw [quoteSegments, Chars.collapse_eq_squeezeChar]

/-- Quoting adds quotes and nothing else. -/
theorem filter_quoteSegments {q : Char} {keep : Char → Bool} (hq : keep q = false)
    (item : List Char) : (quoteSegments q item).filter keep = item.filter keep := by
  have hfirst (cs : List Char) : (q :: cs).filter keep = cs.filter keep :=
    List.filter_cons_of_neg (Bool.eq_false_iff.1 hq)
  have hlast (cs : List Char) : (cs ++ [q]).filter keep = cs.filter keep := by
    rw [List.filter_append, hfirst, List.filter_nil, List.append_nil]
  have hboth : [q, '.', q].filter keep = ['.'].filter keep := (hfirst _).trans (hlast ['.'])
  rw [quoteSegments_eq]
  split
  · rfl
  rw [Chars.filter_squeezeChar hq]
  split
  · rw [hfirst, Chars.filter_replaceChar (hfirst ['.'])]
  split
  · rw [hlast, hfirst, Chars.filter_replaceChar hboth]
  · rw [hlast, hfirst]

namespace Rules

/-! ## Settings -/

/-- The quote and the prefix are no part of what cuts an identifier, and of two different prefixes
none begins with the other. -/
structure Clear (r : Rules) : Prop where
  quote : ∀ q, r.quote = some q → q ≠ '.' ∧ q ≠ '*' ∧ q ≠ '(' ∧ Chars.isBlank q = false
  tablePrefix : ∀ c ∈ r.tablePrefix.toList,
    c ≠ '.' ∧ c ≠ '(' ∧ Chars.isBlank c = false ∧ r.quote ≠ some c
  swapPrefix : r.swapPrefix = "" ∨ r.swapPrefix = r.tablePrefix ∨
    ¬r.swapPrefix.toList <+: r.tablePrefix.toList ∧ ¬r.tablePrefix.toList <+: r.swapPrefix.toList

section

variable {r : Rules} (hr : r.Clear)
include hr

theorem Clear.quote_ne_dot : r.quote ≠ some '.' := fun h => (hr.quote _ h).1 rfl

theorem Clear.quote_ne_paren : r.quote ≠ some '(' := fun h => (hr.quote _ h).2.2.1 rfl

/-- The prefix has no quotes. -/
theorem Clear.bare_tablePrefix : ∀ c ∈ r.tablePrefix.toList, r.quote ≠ some c :=
  fun c hc => (hr.tablePrefix c hc).2.2.2

end

/-! ## Without quotes -/

theorem strip_eq_filter (r : Rules) (cs : List Char) :
    r.strip cs = cs.filter fun c => decide (r.quote ≠ some c) := by
  unfold strip
  cases r.quote with
  | none => simp
  | some q => simp [eq_comm]

theorem mem_strip {r : Rules} {c : Char} {cs : List Char} :
    c ∈ r.strip cs ↔ c ∈ cs ∧ r.quote ≠ some c := by
  rw [strip_eq_filter, List.mem_filter, decide_eq_true_iff]

theorem strip_append (r : Rules) (as bs : List Char) :
    r.strip (as ++ bs) = r.strip as ++ r.strip bs := by
  rw [strip_eq_filter, strip_eq_filter, strip_eq_filter, List.filter_append]

theorem strip_strip (r : Rules) (cs : List Char) : r.strip (r.strip cs) = r.strip cs := by
  rw [strip_eq_filter, strip_eq_filter, List.filter_filter]
  simp

theorem strip_eq_self_iff {r : Rules} {cs : List Char} :
    r.strip cs = cs ↔ ∀ c ∈ cs, r.quote ≠ some c := by
  rw [strip_eq_filter, List.filter_eq_self]
  simp

theorem map_strip {r : Rules} {parts : List (List Char)}
    (h : ∀ part ∈ parts, r.strip part = part) : parts.map r.strip = parts :=
  (List.map_congr_left h).trans (List.map_id' parts)

theorem strip_quoteChars (r : Rules) (item : List Char) :
    r.strip (r.quoteChars item) = r.strip item := by
  unfold strip quoteChars
  cases r.quote with
  | none => rfl
  | some q => exact filter_quoteSegments (by simp) item

/-- The segments without quotes are those of the text without quotes. -/
theorem map_strip_splitOn {r : Rules} (hdot : r.quote ≠ some '.') (cs : List Char) :
    (Chars.splitOn '.' cs).map r.strip = Chars.splitOn '.' (r.strip cs) := by
  rw [strip_eq_filter, ← Chars.map_filter_splitOn (decide_eq_true hdot)]
  exact List.map_congr_left fun cs _ => r.strip_eq_filter cs

/-! ## Prefixes -/

/-- A segment with the prefix begins with it, and the rest is from the segment. -/
theorem prefixed_eq_append (r : Rules) (part : List Char) :
    ∃ rest, r.prefixed part = r.tablePrefix.toList ++ rest ∧ rest ⊆ part := by
  unfold prefixed
  cases hswap : r.afterSwap? part with
  | some rest =>
    refine ⟨rest, rfl, ?_⟩
    unfold afterSwap? at hswap
    split at hswap
    · cases hswap
    · rw [Chars.afterLead?_eq_some_iff.1 hswap]
      exact List.subset_append_right _ _
  | none =>
    dsimp only
    split
    · rename_i hlead
      obtain ⟨rest, hrest⟩ := Option.isSome_iff_exists.1 hlead
      have hpart := Chars.afterLead?_eq_some_iff.1 hrest
      exact ⟨rest, hpart, hpart ▸ List.subset_append_right _ _⟩
    · exact ⟨part, rfl, List.Subset.refl part⟩

theorem mem_prefixed {r : Rules} {c : Char} {part : List Char} (h : c ∈ r.prefixed part) :
    c ∈ r.tablePrefix.toList ∨ c ∈ part := by
  obtain ⟨rest, hrest, hsub⟩ := r.prefixed_eq_append part
  rw [hrest] at h
  exact (List.mem_append.1 h).imp_right (@hsub c)

/-- What begins with the prefix keeps it. If it also begins with the prefix that stands for it, then
the two are the same. -/
theorem prefixed_append {r : Rules} (hr : r.Clear) (rest : List Char) :
    r.prefixed (r.tablePrefix.toList ++ rest) = r.tablePrefix.toList ++ rest := by
  have hlead : Chars.startsWith r.tablePrefix.toList (r.tablePrefix.toList ++ rest) = true :=
    Option.isSome_iff_exists.2 ⟨rest, Chars.afterLead?_eq_some_iff.2 rfl⟩
  unfold prefixed
  cases hswap : r.afterSwap? (r.tablePrefix.toList ++ rest) with
  | none => exact if_pos hlead
  | some after =>
    unfold afterSwap? at hswap
    split at hswap
    · cases hswap
    rename_i hsome
    have hafter := Chars.afterLead?_eq_some_iff.1 hswap
    rcases hr.swapPrefix with hnone | hsame | ⟨hswapLead, htableLead⟩
    · exact absurd hnone hsome
    · rw [hsame] at hafter
      exact hafter.symm
    · have hlead : r.swapPrefix.toList <+: r.tablePrefix.toList ++ rest := ⟨after, hafter.symm⟩
      rcases List.prefix_or_prefix_of_prefix hlead (List.prefix_append _ rest) with h | h
      · exact absurd h hswapLead
      · exact absurd h htableLead

theorem prefixed_prefixed {r : Rules} (hr : r.Clear) (part : List Char) :
    r.prefixed (r.prefixed part) = r.prefixed part := by
  obtain ⟨rest, hrest, -⟩ := r.prefixed_eq_append part
  rw [hrest, prefixed_append hr]

theorem strip_prefixed {r : Rules} (hunquoted : ∀ c ∈ r.tablePrefix.toList, r.quote ≠ some c)
    {part : List Char} (h : r.strip part = part) : r.strip (r.prefixed part) = r.prefixed part := by
  refine strip_eq_self_iff.2 fun c hc => ?_
  rcases mem_prefixed hc with hc | hc
  · exact hunquoted c hc
  · exact strip_eq_self_iff.1 h c hc

/-! ## Paths -/

theorem path_singleton (part : List Char) : path [part] = part :=
  List.intercalate_singleton

theorem path_cons (part : List Char) {parts : List (List Char)} (h : parts ≠ []) :
    path (part :: parts) = part ++ '.' :: path parts := by
  unfold path
  rw [List.intercalate_cons_of_ne_nil h, List.append_assoc]
  rfl

theorem path_cons_cons (part next : List Char) (rest : List (List Char)) :
    path (part :: next :: rest) = part ++ '.' :: path (next :: rest) :=
  path_cons part (List.cons_ne_nil next rest)

theorem mem_path {c : Char} {parts : List (List Char)} (h : c ∈ path parts) :
    c = '.' ∨ ∃ part ∈ parts, c ∈ part := by
  induction parts with
  | nil => cases h
  | cons part parts ih =>
    cases parts with
    | nil =>
      rw [path, List.intercalate_singleton] at h
      exact .inr ⟨part, List.mem_singleton_self _, h⟩
    | cons next rest =>
      rw [path_cons_cons] at h
      rcases List.mem_append.1 h with h | h
      · exact .inr ⟨part, List.mem_cons_self .., h⟩
      rcases List.mem_cons.1 h with h | h
      · exact .inl h
      · exact (ih h).imp_right fun ⟨part, hpart, hc⟩ => ⟨part, List.mem_cons_of_mem _ hpart, hc⟩

theorem mem_path_of_mem {c : Char} {part : List Char} {parts : List (List Char)}
    (hpart : part ∈ parts) (hc : c ∈ part) : c ∈ path parts := by
  induction parts with
  | nil => cases hpart
  | cons first parts ih =>
    cases parts with
    | nil =>
      rw [path, List.intercalate_singleton, ← List.mem_singleton.1 hpart]
      exact hc
    | cons next rest =>
      rw [path_cons_cons]
      rcases List.mem_cons.1 hpart with rfl | hpart
      · exact List.mem_append_left _ hc
      · exact List.mem_append_right _ (List.mem_cons_of_mem _ (ih hpart))

theorem strip_path {r : Rules} (hdot : r.quote ≠ some '.') (parts : List (List Char)) :
    r.strip (path parts) = path (parts.map r.strip) := by
  induction parts with
  | nil => exact strip_eq_self_iff.2 fun c hc => absurd hc List.not_mem_nil
  | cons part parts ih =>
    cases parts with
    | nil =>
      unfold path
      rw [List.intercalate_singleton, List.map_singleton, List.intercalate_singleton]
    | cons next rest =>
      have hsep : r.strip ['.'] = ['.'] :=
        strip_eq_self_iff.2 fun c hc => by rwa [List.mem_singleton.1 hc]
      rw [path_cons_cons, List.map_cons, List.map_cons, path_cons_cons, ← List.singleton_append,
        strip_append, strip_append, ih, hsep]
      rfl

/-- Segments without quotes or dots. -/
structure Bare (r : Rules) (parts : List (List Char)) : Prop where
  ne_nil : parts ≠ []
  dot : ∀ part ∈ parts, '.' ∉ part
  strip : ∀ part ∈ parts, r.strip part = part

/-- The segments of a text, without quotes. -/
def segments (r : Rules) (text : List Char) : List (List Char) :=
  (Chars.splitOn '.' text).map r.strip

theorem bare_segments (r : Rules) (text : List Char) : r.Bare (r.segments text) where
  ne_nil := List.map_eq_nil_iff.not.2 (Chars.splitOn_ne_nil '.' text)
  dot := by
    intro part hpart hdot
    obtain ⟨piece, hpiece, rfl⟩ := List.mem_map.1 hpart
    exact Chars.not_mem_of_mem_splitOn hpiece (mem_strip.1 hdot).1
  strip := by
    intro part hpart
    obtain ⟨piece, -, rfl⟩ := List.mem_map.1 hpart
    exact r.strip_strip piece

theorem path_segments {r : Rules} (hdot : r.quote ≠ some '.') (text : List Char) :
    path (r.segments text) = r.strip text := by
  unfold segments path
  rw [map_strip_splitOn hdot, Chars.intercalate_splitOn]

/-- Segments are found again in every text that has nothing but quotes besides them. -/
theorem segments_eq {r : Rules} (hdot : r.quote ≠ some '.') {parts : List (List Char)}
    (hparts : r.Bare parts) {text : List Char} (htext : r.strip text = path parts) :
    r.segments text = parts := by
  unfold segments
  rw [map_strip_splitOn hdot, htext, Chars.splitOn_eq]
  exact List.splitOn_intercalate '.' hparts.dot hparts.ne_nil

end Rules

end SqlGateway.Identifier

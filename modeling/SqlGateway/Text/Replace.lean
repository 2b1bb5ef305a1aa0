import SqlGateway.Text.Pieces

/-!
# Replacing text

A rule looks at the text from some place on and may replace a stretch of it. `Chars.replaceBy`
applies a rule from left to right; what a rule has put in is not looked at again.
`Chars.replaceText` replaces one text by another in this way, and `Chars.collapse` does so round
after round, as what was put in may make a new pair with what stands next to it.
-/

namespace SqlGateway.Chars

/-- A stretch at the beginning of a text, by its length, and what replaces it. -/
structure Replacement where
  length : Nat
  text : List Char

/-- Applies the rule after `skip` characters, which have been replaced already. A rule that replaces
nothing is not applied. -/
def replaceFrom (rule : List Char → Option Replacement) : Nat → List Char → List Char
  | _, [] => []
  | skip + 1, _ :: cs => replaceFrom rule skip cs
  | 0, c :: cs =>
    match rule (c :: cs) with
    | some ⟨length + 1, text⟩ => text ++ replaceFrom rule length cs
    | _ => c :: replaceFrom rule 0 cs

def replaceBy (rule : List Char → Option Replacement) (cs : List Char) : List Char :=
  replaceFrom rule 0 cs

theorem replaceBy_of_none {rule : List Char → Option Replacement} (h : ∀ cs, rule cs = none)
    (cs : List Char) : replaceBy rule cs = cs := by
  induction cs with
  | nil => rfl
  | cons c cs ih =>
    rw [replaceBy, replaceFrom, h]
    exact congrArg (c :: ·) ih

/-! ## Occurrences of a text -/

/-- Replaces each occurrence of a text, from left to right. -/
def replaceText (old new : List Char) (cs : List Char) : List Char :=
  replaceBy (fun cs => if startsWith old cs then some ⟨old.length, new⟩ else none) cs

/-- One round replaces every pair of `q` by a single one. -/
def replacePairs (q : Char) (cs : List Char) : List Char :=
  replaceText [q, q] [q] cs

@[simp]
theorem replacePairs_nil (q : Char) : replacePairs q [] = [] :=
  rfl

theorem startsWith_pair_iff {q c : Char} {cs : List Char} :
    startsWith [q, q] (c :: cs) = true ↔ c = q ∧ cs.head? = some q := by
  rw [startsWith, Option.isSome_iff_exists]
  constructor
  · rintro ⟨rest, hrest⟩
    cases afterLead?_eq_some_iff.1 hrest
    exact ⟨rfl, rfl⟩
  · rintro ⟨rfl, hhead⟩
    obtain ⟨rest, rfl⟩ := List.head?_eq_some_iff.1 hhead
    exact ⟨rest, afterLead?_eq_some_iff.2 rfl⟩

theorem replacePairs_pair (q : Char) (cs : List Char) :
    replacePairs q (q :: q :: cs) = q :: replacePairs q cs := by
  have hstart : startsWith [q, q] (q :: q :: cs) = true := startsWith_pair_iff.2 ⟨rfl, rfl⟩
  simp only [replacePairs, replaceText, replaceBy, replaceFrom, hstart, ↓reduceIte,
    List.length_cons, List.length_nil, List.singleton_append]

theorem replacePairs_cons {q c : Char} {cs : List Char} (h : ¬(c = q ∧ cs.head? = some q)) :
    replacePairs q (c :: cs) = c :: replacePairs q cs := by
  have hstart : startsWith [q, q] (c :: cs) = false :=
    Bool.eq_false_iff.2 fun hstart => h (startsWith_pair_iff.1 hstart)
  simp only [replacePairs, replaceText, replaceBy, replaceFrom, hstart, Bool.false_eq_true,
    ↓reduceIte]

/-- A text is a pair with something behind it, or it begins with a character that stays. -/
theorem pair_cases (q : Char) (cs : List Char) :
    cs = [] ∨ (∃ rest, cs = q :: q :: rest) ∨
      ∃ c rest, cs = c :: rest ∧ ¬(c = q ∧ rest.head? = some q) := by
  match cs with
  | [] => exact .inl rfl
  | c :: rest =>
    by_cases h : c = q ∧ rest.head? = some q
    · obtain ⟨rfl, hhead⟩ := h
      obtain ⟨tail, rfl⟩ := List.head?_eq_some_iff.1 hhead
      exact .inr (.inl ⟨tail, rfl⟩)
    · exact .inr (.inr ⟨c, rest, rfl, h⟩)

theorem length_replacePairs_le (q : Char) (cs : List Char) :
    (replacePairs q cs).length ≤ cs.length := by
  induction hn : cs.length using Nat.strongRecOn generalizing cs with
  | ind n ih =>
    subst hn
    rcases pair_cases q cs with rfl | ⟨rest, rfl⟩ | ⟨c, rest, rfl, h⟩
    · exact Nat.le_refl 0
    · have hrest := ih rest.length (Nat.lt_add_of_pos_right Nat.two_pos) rest rfl
      rw [replacePairs_pair, List.length_cons, List.length_cons, List.length_cons]
      omega
    · rw [replacePairs_cons h]
      exact Nat.succ_le_succ (ih rest.length (Nat.lt_succ_self _) rest rfl)

/-- A round shortens a text that has a pair. -/
theorem length_replacePairs_lt {q : Char} {cs : List Char} (h : occursIn [q, q] cs = true) :
    (replacePairs q cs).length < cs.length := by
  induction cs with
  | nil => cases h
  | cons c cs ih =>
    rw [occursIn, Bool.or_eq_true] at h
    by_cases hstart : c = q ∧ cs.head? = some q
    · obtain ⟨rfl, hhead⟩ := hstart
      obtain ⟨rest, rfl⟩ := List.head?_eq_some_iff.1 hhead
      have hle := length_replacePairs_le c rest
      rw [replacePairs_pair, List.length_cons, List.length_cons, List.length_cons]
      omega
    · have hlater := h.resolve_left fun hpair => hstart (startsWith_pair_iff.1 hpair)
      rw [replacePairs_cons hstart]
      exact Nat.succ_lt_succ (ih hlater)

/-- Replaces pairs of `q` as long as there is one. It is unfolded where quoted names are evaluated,
so it is not left irreducible. -/
@[semireducible]
def collapse (q : Char) (cs : List Char) : List Char :=
  if _ : occursIn [q, q] cs = true then collapse q (replacePairs q cs) else cs
termination_by cs.length
decreasing_by exact length_replacePairs_lt ‹_›

end SqlGateway.Chars

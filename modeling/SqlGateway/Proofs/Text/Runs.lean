import Mathlib.Logic.Function.Iterate
import SqlGateway.Proofs.Text.Pieces
import SqlGateway.Text.Replace

/-!
# Runs that are collapsed

A round replaces the pairs of a character from left to right, none of them twice, so it leaves about
half of a run. Rounds follow until no pair is left, and what is left then is told by
`Chars.squeezeChar`, which goes over the text once: a round does not change what squeezing gives,
and a text without pairs is squeezed already.

Main definition:

* `Chars.Squeezed`: a text with each longest run of a character as a single one.

Main results:

* `Chars.collapse_eq_squeezeChar`: the rounds end, in the squeezed text.
* `Chars.exists_rounds`: how many rounds there are.
* `Chars.squeezed_iff`: what the squeezed text is.
-/

namespace SqlGateway.Chars

variable {q : Char}

/-! ## Texts without pairs -/

theorem squeezeChar_pair (q : Char) (cs : List Char) :
    squeezeChar q (q :: q :: cs) = squeezeChar q (q :: cs) := by
  rw [squeezeChar, if_pos ⟨rfl, rfl⟩]

/-- A character that begins no pair stays. -/
theorem squeezeChar_cons {c : Char} {cs : List Char} (h : ¬(c = q ∧ cs.head? = some q)) :
    squeezeChar q (c :: cs) = c :: squeezeChar q cs := by
  cases cs with
  | nil => rfl
  | cons d cs => rw [squeezeChar, if_neg fun hpair => h ⟨hpair.1, congrArg some hpair.2⟩]

theorem squeezeChar_cons_squeezeChar (c : Char) (cs : List Char) :
    squeezeChar q (c :: squeezeChar q cs) = squeezeChar q (c :: cs) := by
  fun_induction squeezeChar q cs generalizing c with
  | case1 => rfl
  | case2 d => rfl
  | case3 d e cs hpair ih =>
    rw [ih, hpair.1, hpair.2]
    by_cases hc : c = q
    · rw [hc, squeezeChar_pair, squeezeChar_pair, squeezeChar_pair]
    · rw [squeezeChar_cons_of_ne hc, squeezeChar_cons_of_ne hc, squeezeChar_pair]
  | case4 d e cs hpair ih =>
    by_cases hfirst : c = q ∧ d = q
    · rw [hfirst.1, hfirst.2, squeezeChar_pair, squeezeChar_pair, ih]
    · have hc : ¬(c = q ∧ (d :: e :: cs).head? = some q) :=
        fun h => hfirst ⟨h.1, Option.some.inj h.2⟩
      rw [squeezeChar, if_neg hfirst, ih, squeezeChar_cons hc]

theorem squeezeChar_squeezeChar (q : Char) (cs : List Char) :
    squeezeChar q (squeezeChar q cs) = squeezeChar q cs := by
  fun_induction squeezeChar q cs with
  | case1 => rfl
  | case2 c => rfl
  | case3 c d cs hpair ih => exact ih
  | case4 c d cs hpair ih => rw [squeezeChar_cons_squeezeChar, squeezeChar, if_neg hpair]

/-- What is squeezed before more text is put behind it is squeezed afterwards as well. -/
theorem squeezeChar_squeezeChar_append (q : Char) (cs ds : List Char) :
    squeezeChar q (squeezeChar q cs ++ ds) = squeezeChar q (cs ++ ds) := by
  fun_induction squeezeChar q cs with
  | case1 => rfl
  | case2 c => rfl
  | case3 c d cs hpair ih =>
    rw [ih, hpair.1, hpair.2, List.cons_append, List.cons_append, List.cons_append,
      squeezeChar_pair]
  | case4 c d cs hpair ih =>
    rw [List.cons_append, ← squeezeChar_cons_squeezeChar, ih, squeezeChar_cons_squeezeChar]
    rfl

theorem squeezeChar_append_squeezeChar (q : Char) (cs ds : List Char) :
    squeezeChar q (cs ++ squeezeChar q ds) = squeezeChar q (cs ++ ds) := by
  induction cs with
  | nil => exact squeezeChar_squeezeChar q ds
  | cons c cs ih =>
    rw [List.cons_append, ← squeezeChar_cons_squeezeChar, ih, squeezeChar_cons_squeezeChar]
    rfl

theorem mem_squeezeChar {c : Char} {cs : List Char} : c ∈ squeezeChar q cs ↔ c ∈ cs := by
  fun_induction squeezeChar q cs with
  | case1 => rfl
  | case2 => rfl
  | case3 d e cs hpair ih =>
    rw [ih, hpair.1, hpair.2]
    simp
  | case4 d e cs hpair ih => rw [List.mem_cons, ih, ← List.mem_cons]

theorem occursIn_pair_cons_iff {c : Char} {cs : List Char} :
    occursIn [q, q] (c :: cs) = true ↔
      (c = q ∧ cs.head? = some q) ∨ occursIn [q, q] cs = true := by
  rw [occursIn, Bool.or_eq_true, startsWith_pair_iff]

/-- Without pairs there is nothing to squeeze. -/
theorem squeezeChar_of_no_pair {cs : List Char} (h : occursIn [q, q] cs = false) :
    squeezeChar q cs = cs := by
  induction cs with
  | nil => rfl
  | cons c cs ih =>
    have hnone : ¬((c = q ∧ cs.head? = some q) ∨ occursIn [q, q] cs = true) := fun hpair => by
      rw [occursIn_pair_cons_iff.2 hpair] at h
      cases h
    obtain ⟨hfirst, hlater⟩ := not_or.1 hnone
    rw [squeezeChar_cons hfirst, ih (Bool.eq_false_iff.2 hlater)]

theorem no_pair_squeezeChar (q : Char) (cs : List Char) :
    occursIn [q, q] (squeezeChar q cs) = false := by
  fun_induction squeezeChar q cs with
  | case1 => rfl
  | case2 c =>
    refine Bool.eq_false_iff.2 fun h => ?_
    rcases occursIn_pair_cons_iff.1 h with hpair | hlater
    · cases hpair.2
    · cases hlater
  | case3 c d cs hpair ih => exact ih
  | case4 c d cs hpair ih =>
    refine Bool.eq_false_iff.2 fun h => ?_
    rcases occursIn_pair_cons_iff.1 h with ⟨hc, hhead⟩ | hlater
    · rw [head?_squeezeChar] at hhead
      exact hpair ⟨hc, Option.some.inj hhead⟩
    · rw [ih] at hlater
      cases hlater

theorem occursIn_pair_iff_infix {cs : List Char} :
    occursIn [q, q] cs = true ↔ [q, q] <:+: cs := by
  induction cs with
  | nil => simp [occursIn]
  | cons c cs ih => rw [occursIn, Bool.or_eq_true, startsWith_iff, ih, List.infix_cons_iff]

/-! ## Rounds -/

/-- A round does not change what squeezing gives. -/
theorem squeezeChar_replacePairs (q : Char) (cs : List Char) :
    squeezeChar q (replacePairs q cs) = squeezeChar q cs := by
  induction hn : cs.length using Nat.strongRecOn generalizing cs with
  | ind n ih =>
    subst hn
    rcases pair_cases q cs with rfl | ⟨rest, rfl⟩ | ⟨c, rest, rfl, h⟩
    · rfl
    · have hrest := ih rest.length (Nat.lt_add_of_pos_right Nat.two_pos) rest rfl
      rw [replacePairs_pair, ← squeezeChar_cons_squeezeChar, hrest, squeezeChar_cons_squeezeChar,
        squeezeChar_pair]
    · have hrest := ih rest.length (Nat.lt_succ_self _) rest rfl
      rw [replacePairs_cons h, ← squeezeChar_cons_squeezeChar, hrest, squeezeChar_cons_squeezeChar]

/-- **The rounds end** in the squeezed text. -/
theorem collapse_eq_squeezeChar (q : Char) (cs : List Char) :
    collapse q cs = squeezeChar q cs := by
  fun_induction collapse q cs with
  | case1 cs hpair ih => rw [ih, squeezeChar_replacePairs]
  | case2 cs hpair => exact (squeezeChar_of_no_pair (Bool.eq_false_iff.2 hpair)).symm

/-- There are as many rounds as it takes until no pair is left. -/
theorem exists_rounds (q : Char) (cs : List Char) :
    ∃ n, collapse q cs = (replacePairs q)^[n] cs ∧
      ∀ m ≤ n, occursIn [q, q] ((replacePairs q)^[m] cs) = true ↔ m < n := by
  fun_induction collapse q cs with
  | case1 cs hpair ih =>
    obtain ⟨n, hresult, hrounds⟩ := ih
    refine ⟨n + 1, hresult, fun m hm => ?_⟩
    cases m with
    | zero => exact iff_of_true hpair (Nat.succ_pos n)
    | succ m => exact (hrounds m (Nat.le_of_succ_le_succ hm)).trans Nat.succ_lt_succ_iff.symm
  | case2 cs hpair =>
    refine ⟨0, rfl, fun m hm => ?_⟩
    rw [Nat.le_zero.1 hm]
    exact iff_of_false hpair (Nat.lt_irrefl 0)

/-! ## Runs -/

/-- The second text is the first one with each longest run of `q` as a single `q`. -/
inductive Squeezed (q : Char) : List Char → List Char → Prop
  | nil : Squeezed q [] []
  | other {c : Char} {cs ds : List Char} (hc : c ≠ q) (h : Squeezed q cs ds) :
    Squeezed q (c :: cs) (c :: ds)
  /-- What follows a longest run does not go on with it. -/
  | run (n : Nat) {cs ds : List Char} (hcs : cs.head? ≠ some q) (h : Squeezed q cs ds) :
    Squeezed q (List.replicate (n + 1) q ++ cs) (q :: ds)

theorem squeezeChar_replicate_append (n : Nat) {cs : List Char} (hcs : cs.head? ≠ some q) :
    squeezeChar q (List.replicate (n + 1) q ++ cs) = q :: squeezeChar q cs := by
  induction n with
  | zero => exact squeezeChar_cons fun h => hcs h.2
  | succ n ih =>
    rw [List.replicate_succ, List.replicate_succ, List.cons_append, List.cons_append,
      squeezeChar_pair]
    exact ih

/-- One more `q` in front of a run makes it longer. -/
theorem Squeezed.pair {cs ds : List Char} (h : Squeezed q (q :: cs) ds) :
    Squeezed q (q :: q :: cs) ds := by
  generalize htext : q :: cs = text at h ⊢
  cases h with
  | nil => cases htext
  | other hc h => exact absurd (List.cons.inj htext).1.symm hc
  | run n hcs h => exact .run (n + 1) hcs h

theorem squeezed_squeezeChar (q : Char) (cs : List Char) : Squeezed q cs (squeezeChar q cs) := by
  fun_induction squeezeChar q cs with
  | case1 => exact .nil
  | case2 c =>
    by_cases hc : c = q
    · rw [hc]
      exact .run 0 (Option.some_ne_none q).symm .nil
    · exact .other hc .nil
  | case3 c d cs hpair ih =>
    rw [hpair.1]
    rw [hpair.2] at ih ⊢
    exact ih.pair
  | case4 c d cs hpair ih =>
    by_cases hc : c = q
    · rw [hc] at hpair ⊢
      exact .run 0 (fun hd => hpair ⟨rfl, Option.some.inj hd⟩) ih
    · exact .other hc ih

/-- Each text has one squeezed form. -/
theorem squeezed_iff {cs ds : List Char} : Squeezed q cs ds ↔ ds = squeezeChar q cs := by
  refine ⟨fun h => ?_, fun h => h ▸ squeezed_squeezeChar q cs⟩
  induction h with
  | nil => rfl
  | other hc _ ih => rw [squeezeChar_cons_of_ne hc, ih]
  | run n hcs _ ih => rw [squeezeChar_replicate_append n hcs, ih]

end SqlGateway.Chars

import SqlGateway.Proofs.Sql.LikePattern
import SqlGateway.Query.Calls

/-!
# What a LIKE condition finds

A text is searched for, at the start, at the end, in the whole or anywhere in it. The condition that
the builder writes for that is read back here, through the literal and through the pattern, and what
it matches is compared with what was to be found. In the dialect with an escape character of its own
the two are the same, whatever the text is made of. In the others the pattern is escaped by
backslashes, and a backslash of the text itself is written for the literal only: as soon as the
literal is read it escapes what follows it in the pattern. So they are the same only for texts that
have no backslash in such a place.

Main definitions:

* `LikeSide.Finds`: what is searched for.
* `LikeSide.Legible`: the texts without a backslash that would be taken for an escape.

Main results:

* `Builder.like_matches_literally`: the dialect with an escape character of its own.
* `Builder.like_matches_literally_iff`: the others.
-/

namespace SqlGateway

open Wild (accepts exactly ofChar shortest)

namespace LikeSide

/-! ## Sides -/

/-- The text is found in another one, on the side where it is searched for. -/
def Finds : LikeSide → List Char → List Char → Prop
  | none, p, s => s = p
  | before, p, s => p <:+ s
  | after, p, s => p <+: s
  | both, p, s => p <:+: s

instance (side : LikeSide) (p s : List Char) : Decidable (side.Finds p s) :=
  match side with
  | none => inferInstanceAs (Decidable (s = p))
  | before => inferInstanceAs (Decidable (p <:+ s))
  | after => inferInstanceAs (Decidable (p <+: s))
  | both => inferInstanceAs (Decidable (p <:+: s))

/-- The wildcards before the text. -/
def opening : LikeSide → List Char
  | before | both => ['%']
  | after | none => []

/-- The wildcards after it. -/
def closing : LikeSide → List Char
  | after | both => ['%']
  | before | none => []

theorem toList_pattern (side : LikeSide) (escaped : String) :
    (side.pattern escaped).toList = side.opening ++ (escaped.toList ++ side.closing) := by
  cases side <;> simp [pattern, opening, closing]

/-- A pattern whose text stands for itself matches what is searched for. -/
theorem accepts_iff_finds (side : LikeSide) (p s : List Char) :
    accepts (side.opening.map ofChar ++ (p.map exactly ++ side.closing.map ofChar)) s = true ↔
      side.Finds p s := by
  have hexact {t : List Char} : accepts (p.map exactly ++ []) t = true ↔ t = p := by
    rw [Wild.accepts_plain_iff]
    constructor
    · rintro ⟨rest, rfl, h⟩
      rw [Wild.accepts_nil_iff.1 h, List.append_nil]
    · rintro rfl
      exact ⟨[], (List.append_nil t).symm, rfl⟩
  have hlead {t : List Char} : accepts (p.map exactly ++ [.any]) t = true ↔ p <+: t := by
    rw [Wild.accepts_plain_iff]
    constructor
    · rintro ⟨rest, rfl, -⟩
      exact List.prefix_append p rest
    · rintro ⟨rest, rfl⟩
      exact ⟨rest, rfl, Wild.accepts_any_last rest⟩
  cases side with
  | none => exact hexact
  | after => exact hlead
  | before =>
    refine Wild.accepts_any_iff.trans ⟨?_, fun h => ⟨p, h, hexact.2 rfl⟩⟩
    rintro ⟨t, ht, haccepts⟩
    exact hexact.1 haccepts ▸ ht
  | both =>
    refine Wild.accepts_any_iff.trans (Iff.trans ?_ List.infix_iff_prefix_suffix.symm)
    exact exists_congr fun t => and_comm.trans (and_congr hlead Iff.rfl)

/-- What is found is in the text. -/
theorem isInfix_of_finds {side : LikeSide} {p s : List Char} (h : side.Finds p s) : p <:+: s := by
  cases side with
  | none => exact h ▸ List.infix_rfl
  | before => exact h.isInfix
  | after => exact h.isInfix
  | both => exact h

/-- No backslash of the text has anything to escape: neither in the text nor behind it. -/
def Legible : LikeSide → List Char → Prop
  | none, p | before, p => '\\' ∉ p.dropLast
  | after, p | both, p => '\\' ∉ p

theorem legible_iff {side : LikeSide} {p : List Char} :
    side.Legible p ↔ '\\' ∉ (p ++ side.closing).dropLast := by
  cases side <;> simp [Legible, closing]

theorem legible_nil (side : LikeSide) : side.Legible [] := by
  cases side <;> exact List.not_mem_nil

theorem legible_cons_iff {side : LikeSide} {c : Char} {p : List Char} :
    side.Legible (c :: p) ↔ (c = '\\' → p = [] ∧ side.closing = []) ∧ side.Legible p := by
  rw [legible_iff, legible_iff, List.cons_append]
  cases h : p ++ side.closing with
  | nil =>
    exact iff_of_true List.not_mem_nil ⟨fun _ => List.append_eq_nil_iff.1 h, List.not_mem_nil⟩
  | cons d ds =>
    have hsome : ¬ (p = [] ∧ side.closing = []) := by
      rintro ⟨hp, hclosing⟩
      rw [hp, hclosing] at h
      cases h
    rw [List.dropLast_cons_cons, List.mem_cons, not_or]
    refine and_congr ⟨fun hne heq => absurd heq.symm hne, fun hescape heq => ?_⟩ Iff.rfl
    exact hsome (hescape heq.symm)

end LikeSide

namespace Dialect

/-! ## Predicates -/

/-- What follows the column in a condition. -/
def likeText (d : Dialect) (side : LikeSide) (p : String) : String :=
  " LIKE '" ++ side.pattern (d.escapeLike p) ++ "'" ++ d.likeClause

/-- A predicate is read by its parts. -/
theorem readLike?_likeText {d : Dialect} {side : LikeSide} {p : String} {pattern : List Char}
    {escape? : Option Char}
    (hpattern : d.readPattern? ('\x27' :: (side.opening ++ (d.escapeChars true p.toList ++
      (side.closing ++ '\x27' :: d.likeClause.toList)))) = some (pattern, d.likeClause.toList))
    (hescape : d.readEscape? d.likeClause.toList = some escape?) :
    d.readLike? (d.likeText side p).toList = d.readWilds? escape? none pattern := by
  have hshape : (d.likeText side p).toList = " LIKE ".toList ++ '\x27' :: (side.opening ++
      (d.escapeChars true p.toList ++ (side.closing ++ '\x27' :: d.likeClause.toList))) := by
    simp [likeText, escapeLike, LikeSide.toList_pattern]
  have hdrop := List.dropPrefix?_append_of_beq ('\x27' :: (side.opening ++
    (d.escapeChars true p.toList ++ (side.closing ++ '\x27' :: d.likeClause.toList))))
    (BEq.refl " LIKE ".toList)
  unfold readLike?
  rw [hshape, hdrop, Option.bind_eq_bind, Option.bind_some, hpattern, Option.bind_eq_bind,
    Option.bind_some]
  dsimp only
  rw [hescape]
  rfl

/-- The wildcards of a side are wildcards. -/
theorem readWilds?_opening {d : Dialect} {escape : Char} (hescape : escape ≠ '%')
    (side : LikeSide) (cs : List Char) :
    d.readWilds? (some escape) none (side.opening ++ cs) =
      (d.readWilds? (some escape) none cs).map (side.opening.map ofChar ++ ·) := by
  cases side with
  | before | both => exact readWilds?_percent hescape cs
  | after | none => exact Option.map_id'.symm

theorem readWilds?_closing {d : Dialect} {escape : Char} (hescape : escape ≠ '%')
    (side : LikeSide) :
    d.readWilds? (some escape) none side.closing = some (side.closing.map ofChar) := by
  cases side with
  | after | both => exact readWilds?_percent hescape []
  | before | none => rfl

/-! ## The dialect with an escape character of its own -/

/-- A character of a text in a pattern that is escaped by `!`. -/
def banged (c : Char) : List Char :=
  if c = '%' ∨ c = '_' ∨ c = '!' then ['!', c] else [c]

/-- The pattern is written first, and its literal after that. -/
theorem doubled_like (c : Char) : doubled true c = (banged c).flatMap (doubled false) := by
  unfold banged
  split
  · next hspecial => rcases hspecial with rfl | rfl | rfl <;> rfl
  · next hplain =>
    obtain ⟨hany, hone, hbang⟩ : c ≠ '%' ∧ c ≠ '_' ∧ c ≠ '!' := by
      simpa only [not_or] using hplain
    simp [doubled, hany, hone, hbang]

/-- An escaped text stands for itself. -/
theorem readWilds?_banged (d : Dialect) (text cs : List Char) :
    d.readWilds? (some '!') none (text.flatMap banged ++ cs) =
      (d.readWilds? (some '!') none cs).map (text.map exactly ++ ·) := by
  induction text with
  | nil => exact Option.map_id'.symm
  | cons c text ih =>
    have hc (cs : List Char) : d.readWilds? (some '!') none (banged c ++ cs) =
        (d.readWilds? (some '!') none cs).map (exactly c :: ·) := by
      unfold banged
      split
      · exact readWilds?_escaped cs
      · next hplain =>
        exact readWilds?_plain (fun h => hplain (.inr (.inr h)))
          (fun h => hplain (h.imp_right .inl)) cs
    rw [List.flatMap_cons, List.append_assoc, hc, ih, Option.map_map]
    rfl

theorem readLike?_sqlite (side : LikeSide) (p : String) :
    sqlite.readLike? (sqlite.likeText side p).toList =
      some (side.opening.map ofChar ++ (p.toList.map exactly ++ side.closing.map ofChar)) := by
  have hopening : side.opening.flatMap (doubled false) = side.opening := by cases side <;> rfl
  have hclosing : side.closing.flatMap (doubled false) = side.closing := by cases side <;> rfl
  have htext : sqlite.escapeChars true p.toList =
      (p.toList.flatMap banged).flatMap (doubled false) := by
    rw [List.flatMap_assoc, ← funext doubled_like]
    rfl
  -- the literal is that of the pattern, so it is undone as a whole
  have hpattern : sqlite.readPattern? ('\x27' :: (side.opening ++
      (sqlite.escapeChars true p.toList ++ (side.closing ++ '\x27' :: sqlite.likeClause.toList)))) =
      some (side.opening ++ (p.toList.flatMap banged ++ side.closing),
        sqlite.likeClause.toList) := by
    have hclause : sqlite.likeClause.toList.head? ≠ some '\x27' := by decide
    have hread := readDoubled?_escape (side.opening ++ (p.toList.flatMap banged ++ side.closing))
      hclause
    simp only [List.flatMap_append, hopening, hclosing, ← htext, List.append_assoc] at hread
    exact hread
  have hescape : sqlite.readEscape? sqlite.likeClause.toList = some (some '!') := rfl
  rw [readLike?_likeText hpattern hescape, readWilds?_opening (by decide), readWilds?_banged,
    readWilds?_closing (by decide)]
  rfl

/-! ## The other dialects -/

/-- A character of a text in a pattern that is escaped by a backslash. A backslash is not. -/
def kept (c : Char) : List Char :=
  if c = '%' ∨ c = '_' then ['\\', c] else [c]

/-- Wildcards have no names, and are none. -/
theorem not_wildcard_of_unescaped? {named c : Char} (h : unescaped? named = some c) :
    ¬ (named = '%' ∨ named = '_') ∧ ¬ (c = '%' ∨ c = '_') := by
  constructor
  · rintro (rfl | rfl) <;> cases h
  · unfold unescaped? at h
    rintro (rfl | rfl) <;> grind

/-- In the literal of a pattern, what was written for a character is read as what stands for it in
the pattern. -/
theorem readKept?_backslashed {c : Char} {cs text rest : List Char}
    (h : readKept? cs = some (text, rest)) :
    readKept? (backslashed true c ++ cs) = some (kept c ++ text, rest) := by
  obtain ⟨named, hc, hnamed⟩ | ⟨-, hwild, hc⟩ | ⟨hb, hq, hplain, hc⟩ := backslashed_cases true c
  · obtain ⟨hnone, hplain⟩ := not_wildcard_of_unescaped? hnamed
    have hname : keptEscape? named = some [c] := by
      rw [keptEscape?, if_neg hnone, hnamed]
      rfl
    rw [hc, kept, if_neg hplain]
    exact readKept?_escaped h hname
  · rw [hc, kept, if_pos hwild]
    exact readKept?_escaped h (if_pos hwild)
  · rw [hc, kept, if_neg fun hwild => hplain ⟨rfl, hwild⟩]
    exact readKept?_plain h hb hq

theorem readKept?_text (text : List Char) {cs more rest : List Char}
    (h : readKept? cs = some (more, rest)) :
    readKept? (text.flatMap (backslashed true) ++ cs) = some (text.flatMap kept ++ more, rest) := by
  induction text with
  | nil => exact h
  | cons c text ih =>
    rw [List.flatMap_cons, List.flatMap_cons, List.append_assoc, List.append_assoc]
    exact readKept?_backslashed ih

/-- The wildcards of a side are in the literal as they are. -/
theorem readKept?_closing (side : LikeSide) :
    readKept? (side.closing ++ ['\x27']) = some (side.closing, []) := by
  cases side <;> rfl

theorem readKept?_opening {cs text rest : List Char} (side : LikeSide)
    (h : readKept? cs = some (text, rest)) :
    readKept? (side.opening ++ cs) = some (side.opening ++ text, rest) := by
  cases side with
  | before | both => exact readKept?_plain h (by decide) (by decide)
  | after | none => exact h

/-- A wildcard is escaped, and anything else stays. -/
theorem readWilds?_kept {d : Dialect} {c : Char} (hc : c ≠ '\\') (cs : List Char) :
    d.readWilds? (some '\\') none (kept c ++ cs) =
      (d.readWilds? (some '\\') none cs).map (exactly c :: ·) := by
  unfold kept
  split
  · exact readWilds?_escaped cs
  · exact readWilds?_plain hc ‹_› cs

section
variable {d : Dialect} (hd : d ≠ sqlite)
include hd

/-- What the reader of patterns is given. -/
theorem readLike?_backslashed (side : LikeSide) (p : String) :
    d.readLike? (d.likeText side p).toList =
      (d.readWilds? (some '\\') none (p.toList.flatMap kept ++ side.closing)).map
        (side.opening.map ofChar ++ ·) := by
  have hpattern : d.readPattern? ('\x27' :: (side.opening ++ (d.escapeChars true p.toList ++
      (side.closing ++ '\x27' :: d.likeClause.toList)))) =
      some (side.opening ++ (p.toList.flatMap kept ++ side.closing), d.likeClause.toList) := by
    have hkept := readKept?_opening side (readKept?_text p.toList (readKept?_closing side))
    cases d with
    | sqlite => exact absurd rfl hd
    | mysql | bare quote => exact hkept
  have hescape : d.readEscape? d.likeClause.toList = some (some '\\') := by
    cases d with
    | sqlite => exact absurd rfl hd
    | mysql | bare quote => rfl
  rw [readLike?_likeText hpattern hescape, readWilds?_opening (by decide)]

/-- A backslash at the very end stands for itself. -/
theorem readWilds?_lone (escape? : Option Char) :
    d.readWilds? escape? (some '\\') [] = some [exactly '\\'] := by
  cases d with
  | sqlite => exact absurd rfl hd
  | mysql | bare quote => rfl

/-- A legible text stands for itself. -/
theorem readWilds?_of_legible {side : LikeSide} {p : List Char} (h : side.Legible p) :
    d.readWilds? (some '\\') none (p.flatMap kept ++ side.closing) =
      some (p.map exactly ++ side.closing.map ofChar) := by
  induction p with
  | nil => exact readWilds?_closing (by decide) side
  | cons c p ih =>
    obtain ⟨hend, hp⟩ := LikeSide.legible_cons_iff.1 h
    by_cases hc : c = '\\'
    · obtain ⟨rfl, hclosing⟩ := hend hc
      rw [hc, hclosing]
      exact readWilds?_lone hd (some '\\')
    · rw [List.flatMap_cons, List.append_assoc, readWilds?_kept hc, ih hp]
      rfl

end

/-! ### Texts with backslashes -/

/-- What was read from a stretch of a text, judged by the shortest match: that is no longer than the
stretch, and is the stretch itself only for a reason. -/
def FallsShort (stretch : List Char) (reason : Prop) (pattern? : Option (List Wild)) : Prop :=
  ∃ pattern, pattern? = some pattern ∧ (pattern.flatMap shortest).length ≤ stretch.length ∧
    (pattern.flatMap shortest = stretch → reason)

namespace FallsShort

variable {stretch : List Char} {reason other : Prop} {pattern? : Option (List Wild)}

theorem imp (h : FallsShort stretch reason pattern?) (himp : reason → other) :
    FallsShort stretch other pattern? := by
  obtain ⟨pattern, hread, hlength, hreason⟩ := h
  exact ⟨pattern, hread, hlength, himp ∘ hreason⟩

/-- A character that was read as itself. -/
theorem exactly (h : FallsShort stretch reason pattern?) (c : Char) :
    FallsShort (c :: stretch) reason (pattern?.map (.exactly c :: ·)) := by
  obtain ⟨pattern, rfl, hlength, hreason⟩ := h
  exact ⟨_, rfl, Nat.succ_le_succ hlength, fun heq => hreason (List.cons.inj heq).2⟩

/-- A character that was lost, so that what is left is too short. -/
theorem lost (h : FallsShort stretch reason pattern?) (c : Char) :
    FallsShort (c :: stretch) other pattern? := by
  obtain ⟨pattern, rfl, hlength, -⟩ := h
  refine ⟨pattern, rfl, Nat.le_succ_of_le hlength, fun heq => ?_⟩
  rw [heq, List.length_cons] at hlength
  omega

/-- A wildcard for any text. -/
theorem any (h : FallsShort stretch reason pattern?) :
    FallsShort stretch reason (pattern?.map (.any :: ·)) := by
  obtain ⟨pattern, rfl, hlength, hreason⟩ := h
  exact ⟨_, rfl, hlength, hreason⟩

/-- A wildcard for any character matches other ones than the character that was meant. -/
theorem one (h : FallsShort stretch reason pattern?) :
    FallsShort ('_' :: stretch) other (pattern?.map (.one :: ·)) := by
  obtain ⟨pattern, rfl, hlength, -⟩ := h
  refine ⟨_, rfl, Nat.succ_le_succ hlength, fun heq => ?_⟩
  have hletter : 'x' = '_' := (List.cons.inj heq).1
  exact absurd hletter (by decide)

end FallsShort

/-- The shortest match is the text only if that is legible. Of a text behind a backslash, which is
open at that point, it is the backslash only if nothing comes after it. -/
theorem fallsShort_readWilds? {d : Dialect} (hd : d ≠ sqlite) (side : LikeSide) (p : List Char) :
    FallsShort p (side.Legible p)
        (d.readWilds? (some '\\') none (p.flatMap kept ++ side.closing)) ∧
      FallsShort ('\\' :: p) (p = [] ∧ side.closing = [])
        (d.readWilds? (some '\\') (some '\\') (p.flatMap kept ++ side.closing)) := by
  induction p with
  | nil =>
    refine ⟨⟨_, readWilds?_closing (by decide) side, ?_, fun _ => side.legible_nil⟩, ?_⟩
    · cases side <;> exact Nat.le_refl 0
    · cases side with
      | before | none => exact ⟨_, readWilds?_lone hd _, Nat.le_refl 1, fun _ => ⟨rfl, rfl⟩⟩
      | after | both => exact ⟨_, rfl, Nat.le_refl 1, fun h => by cases h⟩
  | cons c p ih =>
    obtain ⟨hplain, hescaped⟩ := ih
    rw [List.flatMap_cons, List.append_assoc]
    generalize p.flatMap kept ++ side.closing = cs at hplain hescaped
    constructor
    · by_cases hc : c = '\\'
      · -- the backslash is there for what comes next
        rw [hc]
        refine FallsShort.imp hescaped ?_
        rintro ⟨rfl, hclosing⟩
        exact LikeSide.legible_cons_iff.2 ⟨fun _ => ⟨rfl, hclosing⟩, side.legible_nil⟩
      · rw [readWilds?_kept hc]
        exact (hplain.exactly c).imp fun hp =>
          LikeSide.legible_cons_iff.2 ⟨fun h => absurd h hc, hp⟩
    · by_cases hwild : c = '%' ∨ c = '_'
      · -- the backslash escapes the one that was to escape the wildcard
        rcases hwild with rfl | rfl
        · exact (hplain.any.lost '%').exactly '\\'
        · exact hplain.one.exactly '\\'
      · -- it escapes the character, and is lost with that
        rw [kept, if_neg hwild]
        exact (hplain.exactly c).lost '\\'

end Dialect

/-! ## Conditions -/

namespace Builder

/-- The call adds a condition on the column, and what follows the column is read as this pattern. -/
def LikeReads (style : Style) (b : Builder) (connector : Connector) (key p : String)
    (side : LikeSide) (pattern : List Wild) : Prop :=
  ∃ fragment text, (b.like style connector false key p side).live.likes =
    b.live.likes ++ [fragment] ∧ fragment.text = b.column style key ++ text ∧
      style.dialect.readLike? text.toList = some pattern

theorem likeReads_of_readLike? {style : Style} {b : Builder} {connector : Connector}
    {key p : String} {side : LikeSide} {pattern : List Wild}
    (h : style.dialect.readLike? (style.dialect.likeText side p).toList = some pattern) :
    b.LikeReads style connector key p side pattern := by
  have htext : b.likeness style false key p side =
      b.column style key ++ style.dialect.likeText side p := by
    simp [likeness, Dialect.likeText, String.append_assoc]
  exact ⟨b.fragment Clauses.likes connector (b.likeness style false key p side), _, rfl, htext, h⟩

/-- **Searching.** In the dialect with an escape character of its own, the condition matches a text
exactly if what was searched for is found in it, whatever that is made of. -/
theorem like_matches_literally {style : Style} (hstyle : style.dialect = .sqlite) (b : Builder)
    (connector : Connector) (key p : String) (side : LikeSide) :
    ∃ pattern, b.LikeReads style connector key p side pattern ∧
      ∀ s : String, accepts pattern s.toList = true ↔ side.Finds p.toList s.toList := by
  have hread := Dialect.readLike?_sqlite side p
  rw [← hstyle] at hread
  exact ⟨_, likeReads_of_readLike? hread, fun s => side.accepts_iff_finds p.toList s.toList⟩

/-- A text made of a quote, the wildcards and the escape character. -/
theorem like_matches_literally_hostile :
    let style : Style := ⟨.sqlite, ⟨"", "", some '"', true⟩⟩
    style.dialect = .sqlite ∧ ∃ pattern,
      Builder.empty.LikeReads style .and "path" "5!%_'" .after pattern ∧
        accepts pattern "5!%_'9".toList = true ∧ accepts pattern "5!9_'9".toList = false := by
  intro style
  have hstyle : style.dialect = .sqlite := rfl
  obtain ⟨pattern, hreads, haccepts⟩ :=
    like_matches_literally hstyle .empty .and "path" "5!%_'" .after
  refine ⟨hstyle, pattern, hreads, (haccepts _).2 ?_, Bool.eq_false_iff.2 (mt (haccepts _).1 ?_)⟩
  · decide
  · decide

/-- **Searching, with backslashes.** In the other dialects the condition has a reading as well, and
that matches what was to be found exactly if the text is legible. -/
theorem like_matches_literally_iff {style : Style} (hstyle : style.dialect ≠ .sqlite) (b : Builder)
    (connector : Connector) (key p : String) (side : LikeSide) :
    ∃ pattern, b.LikeReads style connector key p side pattern ∧
      ((∀ s : String, accepts pattern s.toList = true ↔ side.Finds p.toList s.toList) ↔
        side.Legible p.toList) := by
  obtain ⟨pattern, hpattern, hlength, hreason⟩ :=
    (Dialect.fallsShort_readWilds? hstyle side p.toList).1
  have hread := Dialect.readLike?_backslashed hstyle side p
  rw [hpattern] at hread
  refine ⟨_, likeReads_of_readLike? hread, fun haccepts => hreason ?_, fun hlegible s => ?_⟩
  · -- the shortest match is found, and there is no room in it for more than the text
    have hshortest : (side.opening.map ofChar ++ pattern).flatMap shortest =
        pattern.flatMap shortest := by
      cases side <;> rfl
    have hmatch := Wild.accepts_shortest (side.opening.map ofChar ++ pattern)
    rw [hshortest] at hmatch
    have hfound := (haccepts (String.ofList (pattern.flatMap shortest))).1
      (by rw [String.toList_ofList]; exact hmatch)
    rw [String.toList_ofList] at hfound
    exact ((LikeSide.isInfix_of_finds hfound).sublist.eq_of_length_le hlength).symm
  · rw [Dialect.readWilds?_of_legible hstyle hlegible] at hpattern
    cases hpattern
    exact side.accepts_iff_finds p.toList s.toList

/-- Wildcards are no hindrance. -/
theorem like_matches_literally_iff_wildcards :
    let style : Style := ⟨.mysql, ⟨"", "", some '\x60', true⟩⟩
    style.dialect ≠ .sqlite ∧ ∃ pattern,
      Builder.empty.LikeReads style .and "path" "10%_'" .both pattern ∧
        ∀ s : String, accepts pattern s.toList = true ↔ "10%_'".toList <:+: s.toList := by
  intro style
  have hstyle : style.dialect ≠ .sqlite := by decide
  obtain ⟨pattern, hreads, hiff⟩ :=
    like_matches_literally_iff hstyle .empty .and "path" "10%_'" .both
  exact ⟨hstyle, pattern, hreads, hiff.2 (by decide : '\\' ∉ "10%_'".toList)⟩

/-- Backslashes are. A path is not found by a search for its beginning; and a search for a backslash
with a percent sign finds a backslash with anything after it. -/
theorem like_misreads_backslash :
    let style : Style := ⟨.mysql, ⟨"", "", some '\x60', true⟩⟩
    let texts (p : String) (side : LikeSide) :=
      (Builder.empty.like style .and false "path" p side).live.likes.map Fragment.text
    let verdict? (predicate s : String) :=
      (Dialect.mysql.readLike? predicate.toList).map fun pattern => accepts pattern s.toList
    (texts "C:\\dir" .after = ["\x60path\x60 LIKE 'C:\\\\dir%'"] ∧
      LikeSide.after.Finds "C:\\dir".toList "C:\\dir\\file".toList ∧
      verdict? " LIKE 'C:\\\\dir%'" "C:\\dir\\file" = some false) ∧
    texts "\\%" .none = ["\x60path\x60 LIKE '\\\\\\%'"] ∧
      ¬ LikeSide.none.Finds "\\%".toList "\\file".toList ∧
      verdict? " LIKE '\\\\\\%'" "\\file" = some true := by
  decide +kernel

end Builder

end SqlGateway

import Mathlib.Tactic.SplitIfs
import SqlGateway.Json.Reader
import SqlGateway.Proofs.Json.Numerals

/-!
# JSON texts read back

What the printer makes of a tree, the reader makes into the same tree. Both stages of the reader
have their own half of this: the printed text falls into the tokens of the tree, and the fold over
these tokens builds the tree. Each half is a statement about a tree in any surroundings, whatever
follows it and whatever containers are open around it, so that it can be proved along the tree.

Main definitions:

* `Json.Legible`: a tree that has a text of its own.
* `Json.tokens`: the words of its text.
* `Json.Token.Lexes`: a text falls into these tokens.

Main results:

* `Json.lexes_chars`: the printed text falls into the tokens of the tree.
* `Json.Reader.read_tokens`: the fold over the tokens builds the tree.
* `Json.parse?_chars`: the text of a legible tree is read back.
-/

namespace SqlGateway.Json

open Decimal

/-! ## Trees and their tokens -/

mutual

/-- The tree is told by its text: its numerals are proper ones, and nothing in it was garbled. -/
def Legible : Json → Prop
  | .number n => n.Proper
  | .garbled => False
  | .array items => LegibleItems items
  | .object fields => LegibleFields fields
  | .null | .bool _ | .text _ => True

def LegibleItems : List Json → Prop
  | [] => True
  | item :: items => Legible item ∧ LegibleItems items

def LegibleFields : List (String × Json) → Prop
  | [] => True
  | (_, item) :: fields => Legible item ∧ LegibleFields fields

end

mutual

/-- The tokens of a tree's text. -/
def tokens : Json → List Token
  | .array items => .openArray :: itemTokens items ++ [.closeArray]
  | .object fields => .openObject :: fieldTokens fields ++ [.closeObject]
  | .null => [.scalar .null]
  | .bool b => [.scalar (.bool b)]
  | .number n => [.scalar (.number n)]
  | .text s => [.scalar (.text s)]
  | .garbled => [.scalar .garbled]

def itemTokens : List Json → List Token
  | [] => []
  | [item] => tokens item
  | item :: items => tokens item ++ .comma :: itemTokens items

def fieldTokens : List (String × Json) → List Token
  | [] => []
  | [(name, item)] => .scalar (.text name) :: .colon :: tokens item
  | (name, item) :: fields =>
    .scalar (.text name) :: .colon :: tokens item ++ .comma :: fieldTokens fields

end

/-! ## From the text to the tokens -/

namespace Token

/-- A text falls into these tokens, however much fuel there is beyond its length. -/
def Lexes (cs : List Char) (ts : List Token) : Prop :=
  ∀ fuel, cs.length < fuel → allFrom? fuel cs = some ts

theorem lexes_nil : Lexes [] [] := by
  intro fuel hfuel
  cases fuel with
  | zero => exact absurd hfuel (Nat.lt_irrefl 0)
  | succ fuel => rfl

/-- One token in front of a text. -/
theorem Lexes.cons {c : Char} {word rest : List Char} {t : Token} {ts : List Token}
    (hgap : isGap c = false) (hone : one? (c :: word ++ rest) = some (t, rest))
    (h : Lexes rest ts) : Lexes (c :: word ++ rest) (t :: ts) := by
  intro fuel hfuel
  cases fuel with
  | zero => exact absurd hfuel (Nat.not_lt_zero _)
  | succ fuel =>
    have hrest : rest.length < fuel := by
      simp only [List.cons_append, List.length_cons, List.length_append] at hfuel
      omega
    have hstart : (c :: word ++ rest).dropWhile isGap = c :: word ++ rest := by
      simp [hgap]
    unfold allFrom?
    rw [hstart]
    simp only [List.cons_append] at hone ⊢
    rw [hone, Option.bind_some, h fuel hrest]
    rfl

/-- A mark is a token of one character. -/
theorem Lexes.mark {c : Char} {rest : List Char} {t : Token} {ts : List Token}
    (hgap : isGap c = false) (hone : ∀ cs, one? (c :: cs) = some (t, cs)) (h : Lexes rest ts) :
    Lexes (c :: rest) (t :: ts) :=
  @Lexes.cons c [] rest t ts hgap (hone rest) h

/-! ### Strings -/

/-- An escape of one letter is read as the character it stands for. -/
theorem string?_short {acc rest : List Char} {c e : Char} (hunit : e ≠ 'u')
    (h : escaped? e = some c) :
    string? ⟨acc, true, none⟩ ('\\' :: e :: rest) = string? ⟨c :: acc, true, none⟩ rest := by
  rw [string?]
  · rw [h]
    rfl
  · exact fun _ _ _ _ _ he _ => hunit he

/-- The escape of a character is read as this character. -/
theorem string?_escapeChar (acc : List Char) (c : Char) (rest : List Char) :
    string? ⟨acc, true, none⟩ (escapeChar c ++ rest) = string? ⟨c :: acc, true, none⟩ rest := by
  unfold escapeChar
  split_ifs with hquote hslash hline hreturn htab hback hfeed hcontrol
  · subst hquote
    exact string?_short (by decide) rfl
  · subst hslash
    exact string?_short (by decide) rfl
  · subst hline
    exact string?_short (by decide) rfl
  · subst hreturn
    exact string?_short (by decide) rfl
  · subst htab
    exact string?_short (by decide) rfl
  · subst hback
    exact string?_short (by decide) rfl
  · subst hfeed
    exact string?_short (by decide) rfl
  · -- the other control characters are written by number, which is no half of a character
    have hunits : ∀ n < 0x20, Hex.number? ('0' :: '0' :: Hex.byte false (UInt8.ofNat n)) = some n ∧
        isHighHalf n = false ∧ isLowHalf n = false := by
      decide
    obtain ⟨hnumber, hhigh, hlow⟩ := hunits c.toNat hcontrol
    unfold Hex.byte at hnumber
    show string? _ ('\\' :: 'u' :: '0' :: '0' :: _ :: _ :: rest) = _
    rw [string?, hnumber]
    simp only [Partial.pushUnit, hhigh, hlow, Bool.false_eq_true, ↓reduceIte, Char.ofNat_toNat]
    rfl
  · show string? _ (c :: rest) = _
    rw [string?]
    · rw [if_neg (not_or.2 ⟨hcontrol, hslash⟩)]
      rfl
    · exact fun h => hquote h
    · exact fun _ _ _ _ _ h => absurd h hslash
    · exact fun _ _ h => absurd h hslash

theorem string?_escaped (acc cs rest : List Char) :
    string? ⟨acc, true, none⟩ (cs.flatMap escapeChar ++ '"' :: rest) =
      some (.scalar (.text (String.ofList (acc.reverse ++ cs))), rest) := by
  induction cs generalizing acc with
  | nil =>
    rw [List.append_nil]
    rfl
  | cons c cs ih =>
    rw [List.flatMap_cons, List.append_assoc, string?_escapeChar, ih, List.reverse_cons,
      List.append_assoc]
    rfl

theorem lexes_quote {s : String} {rest : List Char} {ts : List Token} (h : Lexes rest ts) :
    Lexes (quote s.toList ++ rest) (.scalar (.text s) :: ts) := by
  refine .cons (by decide) ?_ h
  show string? ⟨[], true, none⟩ (s.toList.flatMap escapeChar ++ ['"'] ++ rest) = _
  rw [List.append_assoc, List.singleton_append, string?_escaped, List.reverse_nil, List.nil_append,
    String.ofList_toList]

/-! ### Numerals -/

/-- A text that begins like a numeral is no other token. -/
theorem one?_eq_numeral? {c : Char} (h : c = '-' ∨ isDigit c = true) (cs : List Char) :
    one? (c :: cs) = (numeral? (c :: cs)).map fun (n, cs) => (.scalar (.number n), cs) := by
  have hne {d : Char} {tail : List Char} (hd : d ≠ '-') (hdigit : isDigit d = false) :
      c :: cs ≠ d :: tail := by
    intro heq
    rw [(List.cons.inj heq).1] at h
    rcases h with h | h
    · exact hd h
    · rw [hdigit] at h
      cases h
  rw [one?] <;> exact fun _ => hne (by decide) (by decide)

theorem lexes_numeral {n : Numeral} (hn : n.Proper) {rest : List Char} {ts : List Token}
    (hcut : Cut rest) (h : Lexes rest ts) :
    Lexes (n.chars ++ rest) (.scalar (.number n) :: ts) := by
  obtain ⟨c, word, hchars, hc⟩ : ∃ c word, n.chars = c :: word ∧ (c = '-' ∨ isDigit c = true) := by
    obtain ⟨d, ds, hd⟩ := List.exists_cons_of_ne_nil hn.whole_ne_nil
    rw [Numeral.chars_eq, hd]
    cases n.negative with
    | true => exact ⟨'-', _, rfl, .inl rfl⟩
    | false => exact ⟨d, _, rfl, .inr (hn.whole d (by rw [hd]; exact List.mem_cons_self ..))⟩
  have hgap : isGap c = false := by
    have hne (g : Char) (hg : g ≠ '-') (hdigit : isDigit g = false) : c ≠ g := by
      rintro rfl
      rcases hc with h | h
      · exact hg h
      · rw [hdigit] at h
        cases h
    unfold isGap
    simp [hne ' ' (by decide) (by decide), hne '\n' (by decide) (by decide),
      hne '\r' (by decide) (by decide), hne '\t' (by decide) (by decide)]
  have hread := numeral?_chars hn hcut
  rw [hchars] at hread ⊢
  refine .cons hgap ?_ h
  rw [List.cons_append, one?_eq_numeral? hc, ← List.cons_append, hread]
  rfl

end Token

open Token

/-- What follows a value in a text. -/
theorem cut_cons {c : Char} (h : c = ',' ∨ c = ']' ∨ c = '}') (cs : List Char) : Cut (c :: cs) := by
  intro d hd
  obtain rfl : c = d := Option.some.inj hd
  rcases h with rfl | rfl | rfl <;> decide

theorem lexes_comma {rest : List Char} {ts : List Token} (h : Lexes rest ts) :
    Lexes (',' :: rest) (.comma :: ts) :=
  .mark (by decide) (fun _ => rfl) h

theorem lexes_colon {rest : List Char} {ts : List Token} (h : Lexes rest ts) :
    Lexes (':' :: rest) (.colon :: ts) :=
  .mark (by decide) (fun _ => rfl) h

mutual

/-- The text of a tree falls into its tokens, whatever follows. -/
theorem lexes_chars (j : Json) (hj : j.Legible) {rest : List Char} {ts : List Token}
    (hcut : Cut rest) (h : Lexes rest ts) : Lexes (j.chars ++ rest) (j.tokens ++ ts) := by
  match j with
  | .null => exact .cons (by decide) rfl h
  | .bool true => exact .cons (by decide) rfl h
  | .bool false => exact .cons (by decide) rfl h
  | .number n => exact lexes_numeral hj hcut h
  | .text s => exact lexes_quote h
  | .garbled => exact absurd hj id
  | .array items =>
    have hclose : Lexes (']' :: rest) (.closeArray :: ts) := .mark (by decide) (fun _ => rfl) h
    have hitems := lexes_itemChars items hj (cut_cons (.inr (.inl rfl)) rest) hclose
    simp only [chars, tokens, List.cons_append, List.append_assoc, List.nil_append]
    exact .mark (by decide) (fun _ => rfl) hitems
  | .object fields =>
    have hclose : Lexes ('}' :: rest) (.closeObject :: ts) := .mark (by decide) (fun _ => rfl) h
    have hfields := lexes_fieldChars fields hj (cut_cons (.inr (.inr rfl)) rest) hclose
    simp only [chars, tokens, List.cons_append, List.append_assoc, List.nil_append]
    exact .mark (by decide) (fun _ => rfl) hfields

theorem lexes_itemChars (items : List Json) (hitems : LegibleItems items) {rest : List Char}
    {ts : List Token} (hcut : Cut rest) (h : Lexes rest ts) :
    Lexes (itemChars items ++ rest) (itemTokens items ++ ts) := by
  match items with
  | [] => exact h
  | [item] => exact lexes_chars item hitems.1 hcut h
  | item :: next :: items =>
    -- from the back, since each text is cut off by what follows it
    have hmore := lexes_itemChars (next :: items) hitems.2 hcut h
    have hcomma := lexes_comma hmore
    have hitem := lexes_chars item hitems.1 (cut_cons (.inl rfl) _) hcomma
    simp only [itemChars, itemTokens, List.append_assoc, List.cons_append]
    exact hitem

theorem lexes_fieldChars (fields : List (String × Json)) (hfields : LegibleFields fields)
    {rest : List Char} {ts : List Token} (hcut : Cut rest) (h : Lexes rest ts) :
    Lexes (fieldChars fields ++ rest) (fieldTokens fields ++ ts) := by
  match fields with
  | [] => exact h
  | [(name, item)] =>
    have hitem := lexes_chars item hfields.1 hcut h
    have hcolon := lexes_colon hitem
    simp only [fieldChars, fieldTokens, List.append_assoc, List.cons_append]
    exact lexes_quote hcolon
  | (name, item) :: next :: fields =>
    have hmore := lexes_fieldChars (next :: fields) hfields.2 hcut h
    have hcomma := lexes_comma hmore
    have hitem := lexes_chars item hfields.1 (cut_cons (.inl rfl) _) hcomma
    have hcolon := lexes_colon hitem
    simp only [fieldChars, fieldTokens, List.append_assoc, List.cons_append]
    exact lexes_quote hcolon

end

/-! ## From the tokens to the tree -/

namespace Reader

/-- The reader on tokens, from any state. -/
def State.read (s : State) (ts : List Token) : Option State :=
  ts.foldlM State.step s

theorem State.read_cons {s s' : State} {t : Token} (h : s.step t = some s') (ts : List Token) :
    s.read (t :: ts) = s'.read ts := by
  unfold read
  rw [List.foldlM_cons, h]
  rfl

/-- The reader is where a value may begin. -/
def Expect.IsValue (e : Expect) : Prop :=
  e = .value ∨ e = .valueOrEnd

/-- The reader is where the name of a field may begin. -/
def Expect.IsKey (e : Expect) : Prop :=
  e = .key ∨ e = .keyOrEnd

variable {e : Expect} {frames : List Frame}

theorem step_scalar (he : e.IsValue) (value : Json) :
    State.step ⟨e, frames, none⟩ (.scalar value) = some (.complete frames value) := by
  rcases he with rfl | rfl <;> rfl

theorem step_openArray (he : e.IsValue) :
    State.step ⟨e, frames, none⟩ .openArray = some ⟨.valueOrEnd, .items [] :: frames, none⟩ := by
  rcases he with rfl | rfl <;> rfl

theorem step_openObject (he : e.IsValue) :
    State.step ⟨e, frames, none⟩ .openObject =
      some ⟨.keyOrEnd, .fields .start :: frames, none⟩ := by
  rcases he with rfl | rfl <;> rfl

theorem step_name (he : e.IsKey) (f : OpenFields) (name : String) :
    State.step ⟨e, .fields f :: frames, none⟩ (.scalar (.text name)) =
      some ⟨.colon, .fields { f with name } :: frames, none⟩ := by
  rcases he with rfl | rfl <;> rfl

theorem step_colon :
    State.step ⟨.colon, frames, none⟩ .colon = some ⟨.value, frames, none⟩ :=
  rfl

theorem step_comma_items (done : List Json) (item : Json) :
    State.step (.complete (.items done :: frames) item) .comma =
      some ⟨.value, .items (item :: done) :: frames, none⟩ :=
  rfl

theorem step_comma_fields (f : OpenFields) (item : Json) :
    State.step (.complete (.fields f :: frames) item) .comma =
      some ⟨.key, .fields (f.add item) :: frames, none⟩ :=
  rfl

/-- An object all of whose names could be read. -/
theorem OpenFields.close_of_whole {f : OpenFields} (h : f.whole = true) :
    f.close = .object f.done.reverse := by
  unfold close
  rw [if_pos h]

mutual

/-- The tokens of a tree put this tree where a value was expected. -/
theorem read_tokens {e : Expect} {frames : List Frame} (he : e.IsValue) (j : Json)
    (rest : List Token) :
    State.read ⟨e, frames, none⟩ (j.tokens ++ rest) = (State.complete frames j).read rest := by
  match j with
  | .null => exact State.read_cons (step_scalar he _) rest
  | .bool b => exact State.read_cons (step_scalar he _) rest
  | .number n => exact State.read_cons (step_scalar he _) rest
  | .text s => exact State.read_cons (step_scalar he _) rest
  | .garbled => exact State.read_cons (step_scalar he _) rest
  | .array [] =>
    refine (State.read_cons (step_openArray he) _).trans ?_
    exact State.read_cons rfl rest
  | .array (item :: items) =>
    rw [tokens, List.cons_append, List.cons_append, List.append_assoc,
      State.read_cons (step_openArray he)]
    exact read_itemTokens (.inr rfl) [] (item :: items) (List.cons_ne_nil _ _) rest
  | .object [] =>
    refine (State.read_cons (step_openObject he) _).trans ?_
    exact State.read_cons rfl rest
  | .object (field :: fields) =>
    rw [tokens, List.cons_append, List.cons_append, List.append_assoc,
      State.read_cons (step_openObject he)]
    exact read_fieldTokens (.inr rfl) .start rfl (field :: fields) (List.cons_ne_nil _ _) rest

/-- The tokens of some items fill up the array that is open. -/
theorem read_itemTokens {e : Expect} {frames : List Frame} (he : e.IsValue) (done : List Json)
    (items : List Json) (hne : items ≠ []) (rest : List Token) :
    State.read ⟨e, .items done :: frames, none⟩ (itemTokens items ++ .closeArray :: rest) =
      (State.complete frames (.array (done.reverse ++ items))).read rest := by
  match items with
  | [] => exact absurd rfl hne
  | [item] =>
    rw [itemTokens, read_tokens he item]
    refine State.read_cons ?_ rest
    show some (State.complete frames (.array (item :: done).reverse)) = _
    rw [List.reverse_cons]
  | item :: next :: items =>
    -- the comma takes the item into the open array, and the rest goes on from there
    have hmore : State.read ⟨.value, .items (item :: done) :: frames, none⟩ _ = _ :=
      read_itemTokens (.inl rfl) (item :: done) (next :: items) (List.cons_ne_nil _ _) rest
    rw [List.reverse_cons, List.append_assoc, List.singleton_append] at hmore
    show State.read _ (item.tokens ++ .comma :: itemTokens (next :: items) ++ _) = _
    rw [List.append_assoc, read_tokens he item, List.cons_append,
      State.read_cons (step_comma_items done item), hmore]

/-- The tokens of some fields fill up the object that is open. -/
theorem read_fieldTokens {e : Expect} {frames : List Frame} (he : e.IsKey) (f : OpenFields)
    (hf : f.whole = true) (fields : List (String × Json)) (hne : fields ≠ [])
    (rest : List Token) :
    State.read ⟨e, .fields f :: frames, none⟩ (fieldTokens fields ++ .closeObject :: rest) =
      (State.complete frames (.object (f.done.reverse ++ fields))).read rest := by
  match fields with
  | [] => exact absurd rfl hne
  | [(name, item)] =>
    have hclose : ({ f with name }.add item : OpenFields).close =
        .object ((name, item) :: f.done).reverse :=
      OpenFields.close_of_whole hf
    rw [fieldTokens, List.cons_append, List.cons_append, State.read_cons (step_name he f name),
      State.read_cons step_colon, read_tokens (.inl rfl) item]
    refine State.read_cons ?_ rest
    show some (State.complete frames ({ f with name }.add item : OpenFields).close) = _
    rw [hclose, List.reverse_cons]
  | (name, item) :: next :: fields =>
    have hmore : State.read ⟨.key, .fields ({ f with name }.add item) :: frames, none⟩ _ = _ :=
      read_fieldTokens (.inl rfl) ({ f with name }.add item) hf (next :: fields)
        (List.cons_ne_nil _ _) rest
    have hdone : ({ f with name }.add item : OpenFields).done.reverse ++ next :: fields =
        f.done.reverse ++ (name, item) :: next :: fields := by
      show ((name, item) :: f.done).reverse ++ _ = _
      rw [List.reverse_cons, List.append_assoc, List.singleton_append]
    rw [hdone] at hmore
    show State.read _ (.scalar (.text name) :: .colon :: (item.tokens ++
      .comma :: fieldTokens (next :: fields)) ++ _) = _
    rw [List.cons_append, List.cons_append, State.read_cons (step_name he f name),
      State.read_cons step_colon, List.append_assoc, read_tokens (.inl rfl) item, List.cons_append,
      State.read_cons (step_comma_fields { f with name } item), hmore]

end

end Reader

/-- **JSON texts read back.** The text of a legible tree is read as this tree. -/
theorem parse?_chars {j : Json} (hj : j.Legible) : parse? j.chars = some j := by
  have hlexes := lexes_chars j hj cut_nil lexes_nil
  rw [List.append_nil, List.append_nil] at hlexes
  have hall : Token.all? j.chars = some j.tokens := hlexes _ (Nat.lt_succ_self _)
  have hread : Reader.State.start.read (j.tokens ++ []) = _ := Reader.read_tokens (.inl rfl) j []
  rw [List.append_nil] at hread
  unfold parse?
  rw [hall]
  show ((Reader.State.start.read j.tokens).bind fun state => state.result) = _
  rw [hread]
  rfl

end SqlGateway.Json

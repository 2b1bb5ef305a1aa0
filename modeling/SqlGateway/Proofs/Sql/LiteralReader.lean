import SqlGateway.Sql.Literal

/-!
# Reading literals back

A reader of string literals for each dialect, apart from the writer: it follows the rules by which a
server finds the end of a literal and the text that it stands for. What the writer puts around a
value cannot be left by any character of the value.

Main results:

* `Dialect.readText?_literal`, `Dialect.readBytes?_literal`: a written literal is read up to its
  last character, and gives the value back.
* `Dialect.literals_read_back`: both, for every dialect and whatever follows the literal.
-/

namespace SqlGateway.Dialect

/-! ## Readers -/

/-- What a backslash and the character after it stand for. -/
def unescaped? (c : Char) : Option Char :=
  if c = '\\' ∨ c = '\x27' ∨ c = '"' then some c
  else if c = '0' then some '\x00'
  else if c = 'n' then some '\n'
  else if c = 'r' then some '\r'
  else if c = 'Z' then some '\x1a'
  else none

/-- The text up to the quote that ends a literal, and what follows that quote; a backslash takes the
character after it along. -/
def readBackslashed? : List Char → Option (List Char × List Char)
  | [] => none
  | [c] => if c = '\x27' then some ([], []) else none
  | c :: d :: cs =>
    if c = '\x27' then some ([], d :: cs)
    else if c = '\\' then do
      let named ← unescaped? d
      let (text, rest) ← readBackslashed? cs
      return (named :: text, rest)
    else do
      let (text, rest) ← readBackslashed? (d :: cs)
      return (c :: text, rest)

/-- The same where a quote is written twice, and a single one ends the literal. -/
def readDoubled? : List Char → Option (List Char × List Char)
  | [] => none
  | [c] => if c = '\x27' then some ([], []) else none
  | c :: d :: cs =>
    if c = '\x27' then
      if d = '\x27' then do
        let (text, rest) ← readDoubled? cs
        return ('\x27' :: text, rest)
      else some ([], d :: cs)
    else do
      let (text, rest) ← readDoubled? (d :: cs)
      return (c :: text, rest)

/-- Reads a string literal at the start of a statement. -/
def readText? (d : Dialect) : List Char → Option (List Char × List Char)
  | '\x27' :: cs =>
    match d with
    | sqlite => readDoubled? cs
    | _ => readBackslashed? cs
  | _ => none

/-- Reads a literal of bytes at the start of a statement. -/
def readBytes? : List Char → Option (List UInt8 × List Char)
  | 'X' :: '\x27' :: cs => do
    let bytes ← Hex.bytes? (cs.takeWhile (· ≠ '\x27'))
    match cs.dropWhile (· ≠ '\x27') with
    | _ :: rest => return (bytes, rest)
    | [] => none
  | _ => none

/-! ## Backslashes -/

/-- A character of a literal is named behind a backslash, or is a wildcard of a pattern, or stands
for itself. -/
theorem backslashed_cases (like : Bool) (c : Char) :
    (∃ named, backslashed like c = ['\\', named] ∧ unescaped? named = some c) ∨
      (like = true ∧ (c = '%' ∨ c = '_') ∧ backslashed like c = ['\\', c]) ∨
      (c ≠ '\\' ∧ c ≠ '\x27' ∧ ¬ (like = true ∧ (c = '%' ∨ c = '_')) ∧
        backslashed like c = [c]) := by
  by_cases hb : c = '\\'
  · subst hb
    exact .inl ⟨_, rfl, rfl⟩
  by_cases hq : c = '\x27'
  · subst hq
    exact .inl ⟨_, rfl, rfl⟩
  by_cases hd : c = '"'
  · subst hd
    exact .inl ⟨_, rfl, rfl⟩
  by_cases hz : c = '\x00'
  · subst hz
    exact .inl ⟨_, rfl, rfl⟩
  by_cases hn : c = '\n'
  · subst hn
    exact .inl ⟨_, rfl, rfl⟩
  by_cases hr : c = '\r'
  · subst hr
    exact .inl ⟨_, rfl, rfl⟩
  by_cases hs : c = '\x1a'
  · subst hs
    exact .inl ⟨_, rfl, rfl⟩
  -- no other character has a name
  unfold backslashed
  rw [if_neg hb, if_neg hq, if_neg hd, if_neg hz, if_neg hn, if_neg hr, if_neg hs]
  by_cases hw : like = true ∧ (c = '%' ∨ c = '_')
  · exact .inr (.inl ⟨hw.1, hw.2, by simp [hw.1, hw.2]⟩)
  · exact .inr (.inr ⟨hb, hq, hw, by simp_all⟩)

/-- An escaped character in front of a text is read as that character. -/
theorem readBackslashed?_backslashed {c : Char} {cs text rest : List Char}
    (h : readBackslashed? cs = some (text, rest)) :
    readBackslashed? (backslashed false c ++ cs) = some (c :: text, rest) := by
  obtain ⟨d, ds, rfl⟩ : ∃ d ds, cs = d :: ds := by
    cases cs with
    | nil => simp [readBackslashed?] at h
    | cons d ds => exact ⟨d, ds, rfl⟩
  obtain ⟨named, hc, hnamed⟩ | ⟨hlike, -⟩ | ⟨hb, hq, -, hc⟩ := backslashed_cases false c
  · simp [hc, readBackslashed?, hnamed, h]
  · cases hlike
  · simp [hc, hb, hq, readBackslashed?, h]

theorem readBackslashed?_escape (text rest : List Char) :
    readBackslashed? (text.flatMap (backslashed false) ++ '\x27' :: rest) = some (text, rest) := by
  induction text with
  | nil => cases rest <;> simp [readBackslashed?]
  | cons c cs ih =>
    rw [List.flatMap_cons, List.append_assoc]
    exact readBackslashed?_backslashed ih

/-! ## Doubled quotes -/

theorem readDoubled?_doubled {c : Char} {cs text rest : List Char}
    (h : readDoubled? cs = some (text, rest)) :
    readDoubled? (doubled false c ++ cs) = some (c :: text, rest) := by
  obtain ⟨d, ds, rfl⟩ : ∃ d ds, cs = d :: ds := by
    cases cs with
    | nil => simp [readDoubled?] at h
    | cons d ds => exact ⟨d, ds, rfl⟩
  unfold doubled
  by_cases hq : c = '\x27'
  · simp [hq, readDoubled?, h]
  · simp [hq, readDoubled?, h]

/-- The literal ends at the first quote that no other quote follows. -/
theorem readDoubled?_escape (text : List Char) {rest : List Char}
    (hrest : rest.head? ≠ some '\x27') :
    readDoubled? (text.flatMap (doubled false) ++ '\x27' :: rest) = some (text, rest) := by
  induction text with
  | nil =>
    cases rest with
    | nil => simp [readDoubled?]
    | cons r rs =>
      have hr : r ≠ '\x27' := by simpa using hrest
      simp [readDoubled?, hr]
  | cons c cs ih =>
    rw [List.flatMap_cons, List.append_assoc]
    exact readDoubled?_doubled ih

/-! ## Literals -/

theorem readText?_literal (d : Dialect) (s : String) {rest : List Char}
    (hrest : rest.head? ≠ some '\x27') :
    d.readText? ((d.literal (.text s)).toList ++ rest) = some (s.toList, rest) := by
  have hshape : (d.literal (.text s)).toList ++ rest =
      '\x27' :: (d.escapeChars false s.toList ++ '\x27' :: rest) := by
    simp [literal, escape]
  rw [hshape]
  cases d with
  | mysql => exact readBackslashed?_escape s.toList rest
  | bare q => exact readBackslashed?_escape s.toList rest
  | sqlite => exact readDoubled?_escape s.toList hrest

/-- No digit is a quote. -/
theorem digit_ne_quote {n : Nat} (h : n < 16) : Hex.digit true n ≠ '\x27' := by
  revert n
  decide

theorem ne_quote_of_mem_digits {bytes : List UInt8} {c : Char}
    (h : c ∈ bytes.flatMap (Hex.byte true)) : c ≠ '\x27' := by
  obtain ⟨b, -, hc⟩ := List.mem_flatMap.1 h
  have hhigh : b.toNat / 16 < 16 := by have := b.toNat_lt; omega
  have hlow : b.toNat % 16 < 16 := Nat.mod_lt _ (by decide)
  rcases List.mem_cons.1 hc with rfl | hc
  · exact digit_ne_quote hhigh
  · rw [List.mem_singleton.1 hc]
    exact digit_ne_quote hlow

/-- Digits without a quote are read up to the quote behind them. -/
theorem readBytes?_of_digits {digits rest : List Char} {bytes : List UInt8}
    (hplain : ∀ c ∈ digits, c ≠ '\x27') (hbytes : Hex.bytes? digits = some bytes) :
    readBytes? ('X' :: '\x27' :: (digits ++ '\x27' :: rest)) = some (bytes, rest) := by
  have hplain' : ∀ c ∈ digits, decide (c ≠ '\x27') = true := fun c hc =>
    decide_eq_true (hplain c hc)
  have htake : (digits ++ '\x27' :: rest).takeWhile (· ≠ '\x27') = digits := by
    rw [List.takeWhile_append_of_pos hplain']
    simp
  have hdrop : (digits ++ '\x27' :: rest).dropWhile (· ≠ '\x27') = '\x27' :: rest := by
    rw [List.dropWhile_append_of_pos hplain']
    simp
  rw [readBytes?, htake, hdrop, hbytes]
  rfl

theorem readBytes?_literal (d : Dialect) (bytes : List UInt8) (rest : List Char) :
    readBytes? ((d.literal (.bytes bytes)).toList ++ rest) = some (bytes, rest) := by
  have hshape : (d.literal (.bytes bytes)).toList ++ rest =
      'X' :: '\x27' :: (bytes.flatMap (Hex.byte true) ++ '\x27' :: rest) := by
    simp [literal, Hex.ofBytes]
  rw [hshape]
  exact readBytes?_of_digits (fun _ => ne_quote_of_mem_digits) (Hex.bytes?_flatMap_byte true bytes)

/-- **Literals read back.** Whatever the value holds, its literal is read exactly to its end: the
text or the bytes come back, and what follows the literal is left. A quote must not follow, since a
literal with a quote behind it would go on in a dialect that doubles quotes. -/
theorem literals_read_back (d : Dialect) (s : String) (bytes : List UInt8) {rest : List Char}
    (hrest : rest.head? ≠ some '\x27') :
    d.readText? ((d.literal (.text s)).toList ++ rest) = some (s.toList, rest) ∧
      readBytes? ((d.literal (.bytes bytes)).toList ++ rest) = some (bytes, rest) :=
  ⟨readText?_literal d s hrest, readBytes?_literal d bytes rest⟩

/-- A text that tries to leave its literal by a quote and to hide the next one by a backslash. -/
theorem literals_read_back_hostile :
    (" OR 1".toList).head? ≠ some '\x27' ∧
      mysql.readText? ((mysql.literal (.text "a' OR \n'\\")).toList ++ " OR 1".toList) =
        some ("a' OR \n'\\".toList, " OR 1".toList) ∧
      readBytes? ((mysql.literal (.bytes [0x27, 0xFF])).toList ++ " OR 1".toList) =
        some ([0x27, 0xFF], " OR 1".toList) :=
  have h : (" OR 1".toList).head? ≠ some '\x27' := by decide
  ⟨h, literals_read_back mysql "a' OR \n'\\" [0x27, 0xFF] h⟩

end SqlGateway.Dialect

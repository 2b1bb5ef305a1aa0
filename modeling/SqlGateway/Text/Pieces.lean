import SqlGateway.Text.Blank

/-!
# Cutting and searching text

Cuts at a single character, beginnings, occurrences, and the comparison of letters without regard
to case that statement recognisers use.

Main definitions:

* `Chars.splitOn`: the pieces between the occurrences of a character, always at least one.
* `Chars.afterLead?`: what follows a given beginning.
* `Chars.occursIn`: a text occurs inside another.
* `Chars.squeezeChar`: every run of one character becomes a single one.
* `Chars.afterLetters?`: what follows a keyword, whatever the case of its letters.

Main statements: `Chars.intercalate_splitOn`, `Chars.breakAt_append` and
`Chars.afterLead?_eq_some_iff` say that cuts lose nothing.
-/

namespace SqlGateway.Chars

/-! ## Pieces -/

def splitOn (sep : Char) : List Char → List (List Char)
  | [] => [[]]
  | c :: cs =>
    if c = sep then [] :: splitOn sep cs
    else match splitOn sep cs with
      | [] => [[c]]
      | piece :: pieces => (c :: piece) :: pieces

theorem splitOn_ne_nil (sep : Char) (cs : List Char) : splitOn sep cs ≠ [] := by
  cases cs with
  | nil => simp [splitOn]
  | cons c cs =>
    rw [splitOn]
    split
    · simp
    · split <;> simp

/-- The pieces with the separator between them are the text again. -/
theorem intercalate_splitOn (sep : Char) (cs : List Char) :
    [sep].intercalate (splitOn sep cs) = cs := by
  induction cs with
  | nil => rfl
  | cons c cs ih =>
    rw [splitOn]
    split
    · rename_i h
      rw [List.intercalate_cons_of_ne_nil (splitOn_ne_nil sep cs), ih, h]
      rfl
    · split
      · rename_i hnil
        exact absurd hnil (splitOn_ne_nil sep cs)
      · rename_i piece pieces heq
        rw [heq] at ih
        cases pieces with
        | nil => simpa [List.intercalate] using ih
        | cons p ps =>
          rw [List.intercalate_cons_cons] at ih ⊢
          simp [← ih]

theorem not_mem_of_mem_splitOn {sep : Char} {cs piece : List Char}
    (h : piece ∈ splitOn sep cs) : sep ∉ piece := by
  induction cs generalizing piece with
  | nil => simp_all [splitOn]
  | cons c cs ih =>
    rw [splitOn] at h
    split at h
    · rcases List.mem_cons.1 h with rfl | h
      · simp
      · exact ih h
    · rename_i hc
      split at h
      · simp_all [Ne.symm hc]
      · rename_i p ps heq
        rcases List.mem_cons.1 h with rfl | h
        · have hp := @ih p (by simp [heq])
          simp [hp, Ne.symm hc]
        · exact ih (by simp [heq, h])

/-- The text before the first `sep`, and the text from it on. -/
def breakAt (sep : Char) (cs : List Char) : List Char × List Char :=
  (cs.takeWhile (· ≠ sep), cs.dropWhile (· ≠ sep))

/-- Nothing is lost at a cut. -/
theorem breakAt_append (sep : Char) (cs : List Char) :
    (breakAt sep cs).1 ++ (breakAt sep cs).2 = cs :=
  List.takeWhile_append_dropWhile

/-- What follows the last `sep`, if there is one. -/
def afterLast? (sep : Char) (cs : List Char) : Option (List Char) :=
  if sep ∈ cs then some (cs.reverse.takeWhile (· ≠ sep)).reverse else none

/-! ## Beginnings and occurrences -/

def afterLead? : List Char → List Char → Option (List Char)
  | [], cs => some cs
  | _ :: _, [] => none
  | l :: ls, c :: cs => if l = c then afterLead? ls cs else none

theorem afterLead?_eq_some_iff {lead cs rest : List Char} :
    afterLead? lead cs = some rest ↔ cs = lead ++ rest := by
  induction lead generalizing cs with
  | nil => simp [afterLead?]
  | cons l ls ih =>
    cases cs with
    | nil => simp [afterLead?]
    | cons c cs =>
      by_cases h : l = c
      · simp [afterLead?, h, ih]
      · simp [afterLead?, h, Ne.symm h]

def startsWith (lead cs : List Char) : Bool :=
  (afterLead? lead cs).isSome

def occursIn (needle : List Char) : List Char → Bool
  | [] => needle.isEmpty
  | c :: cs => startsWith needle (c :: cs) || occursIn needle cs

/-- Replaces each occurrence of one character by a text. -/
def replaceChar (old : Char) (new : List Char) (cs : List Char) : List Char :=
  cs.flatMap fun c => if c = old then new else [c]

theorem replaceChar_append (old : Char) (new as bs : List Char) :
    replaceChar old new (as ++ bs) = replaceChar old new as ++ replaceChar old new bs := by
  simp [replaceChar]

/-- Text without the character stays as it is. -/
theorem replaceChar_of_not_mem {old : Char} {new cs : List Char} (h : old ∉ cs) :
    replaceChar old new cs = cs := by
  induction cs with
  | nil => rfl
  | cons c cs ih =>
    have hc : c ≠ old := fun hc => h (by simp [hc])
    have hcs : old ∉ cs := fun hm => h (by simp [hm])
    simp only [replaceChar, List.flatMap_cons, if_neg hc] at ih ⊢
    rw [ih hcs]
    rfl

/-- Every run of `q` becomes a single `q`. -/
def squeezeChar (q : Char) : List Char → List Char
  | [] => []
  | [c] => [c]
  | c :: d :: cs =>
    if c = q ∧ d = q then squeezeChar q (d :: cs) else c :: squeezeChar q (d :: cs)

/-! ## Letters without case -/

/-- A capital letter and a character that differ in case only. Besides the two ASCII forms, the
long s stands for `S` and the Kelvin sign for `K`, as in Unicode's simple case folding. -/
def sameLetter (capital c : Char) : Bool :=
  c.toUpper == capital || (capital == 'S' && c == '\u017F') || (capital == 'K' && c == '\u212A')

def afterLetters? : List Char → List Char → Option (List Char)
  | [], cs => some cs
  | _ :: _, [] => none
  | l :: ls, c :: cs => if sameLetter l c then afterLetters? ls cs else none

end SqlGateway.Chars

namespace SqlGateway.Text

def occursIn (needle hay : String) : Bool :=
  Chars.occursIn needle.toList hay.toList

/-- ASCII letters in upper case, all else as it is. -/
def upper (s : String) : String :=
  s.map Char.toUpper

/-- ASCII letters in lower case, all else as it is. -/
def lower (s : String) : String :=
  s.map Char.toLower

/-- The trimmed pieces of a comma-separated list that are not blank. -/
def listItems (s : String) : List String :=
  ((Chars.splitOn ',' s.toList).map Chars.trim).filterMap fun piece =>
    if piece.isEmpty then none else some (String.ofList piece)

/-- The texts one after the other, with `sep` between them. -/
def join (sep : String) (parts : List String) : String :=
  sep.intercalate parts

end SqlGateway.Text

import SqlGateway.Proofs.Sql.KeyOperators
import SqlGateway.Query.Calls

/-!
# Conditions with operators of a caller's own

A condition compares a column with a value: with the operator that its key has, or for equality, or
with NULL. Whether the key has an operator is seen from its blanks and signs. An operator of its own
is not given an operand if the value is NULL, and where identifiers are quoted it comes into the
quotes if there is no space or tab before it.

Main definitions:

* `IsPredicate`: a column with one comparison and its operand, or compared with NULL.
* `KeyOperator.Fits`: the operator of a key, if it has one, gets its place and an operand.
* `KeyOperator.predicate`: the condition of such a key.

Main results:

* `Builder.isPredicate_condition_iff`: which keys and values give a predicate.
* `PredicateCall.adds_predicates`: what the calls add.
-/

namespace SqlGateway

/-! ## Keys -/

theorem hasOperator_iff (key : String) :
    hasOperator key = true ↔ ∃ c ∈ Chars.trim key.toList, Chars.isMark c = true := by
  unfold hasOperator
  rw [List.any_eq_true]
  refine exists_congr fun c => and_congr_right fun _ => ?_
  rw [Chars.isMark, Chars.isSign, Bool.or_assoc, Bool.or_assoc, Bool.or_assoc, Bool.or_assoc,
    Bool.or_assoc]

theorem hasOperator_of_sign {key : String} {c : Char} (h : c ∈ key.toList)
    (hc : Chars.isSign c = true) : hasOperator key = true :=
  (hasOperator_iff key).2
    ⟨c, Chars.mem_trim (Chars.isBlank_of_isSign hc) h, Chars.isMark_of_isSign hc⟩

theorem not_hasOperator {key : String} (h : ∀ c ∈ key.toList, Chars.isMark c = false) :
    hasOperator key = false := by
  refine Bool.eq_false_iff.2 fun hop => ?_
  obtain ⟨c, hc, hmark⟩ := (hasOperator_iff key).1 hop
  rw [h c (Chars.mem_of_mem_trim hc)] at hmark
  cases hmark

/-! ## Predicates -/

/-- The text is the column with one comparison and its operand, or compared with NULL. -/
def IsPredicate (d : Dialect) (column : String) (value : Value) (text : String) : Prop :=
  (∃ o : KeyOperator, text = column ++ (String.ofList o.written ++ " " ++ d.literal value)) ∨
    text = column ++ " IS NULL" ∨ text = column ++ " IS NOT NULL"

namespace KeyOperator

/-- The predicate of a key: with its own operator, with equality, or with NULL. -/
def predicate (d : Dialect) (column : String) (value : Value) : Option KeyOperator → String
  | none => column ++ if value.isNull then " IS NULL" else " = " ++ d.literal value
  | some o => column ++ (String.ofList o.shown ++ " " ++ d.literal value)

/-- An operator of the key's own has an operand, and does not come into quotes. -/
def Fits (r : Identifier.Rules) (value : Value) (o? : Option KeyOperator) : Prop :=
  ∀ o, o? = some o → value.isNull = false ∧ (r.Quotes → o.Apart)

/-- The operator with what is left of the blanks before it. -/
def squeezed (o : KeyOperator) : KeyOperator :=
  ⟨Chars.squeezeGaps o.gap, o.isBlank_of_mem_squeezeGaps, o.comparison⟩

/-- A comparison behind one space. -/
def spaced (comparison : Comparison) : KeyOperator :=
  ⟨[' '], List.forall_mem_singleton.2 rfl, comparison⟩

theorem isPredicate_predicate (d : Dialect) (column : String) {value : Value}
    {o? : Option KeyOperator} : IsPredicate d column value (predicate d column value o?) := by
  cases o? with
  | some o => exact .inl ⟨o.squeezed, rfl⟩
  | none =>
    cases hnull : value.isNull with
    | true =>
      rw [predicate, hnull]
      exact .inr (.inl rfl)
    | false =>
      have hequal : " = " = String.ofList [' ', '='] ++ " " := by decide
      rw [predicate, hnull, if_neg Bool.false_ne_true, hequal]
      exact .inl ⟨spaced .equal, rfl⟩

/-- Signs begin where the blanks end. -/
theorem dropWhile_blanks {gap rest : List Char} (hgap : ∀ c ∈ gap, Chars.isBlank c = true)
    (hrest : ∀ c, rest.head? = some c → Chars.isBlank c = false) :
    (gap ++ rest).dropWhile Chars.isBlank = rest := by
  rw [List.dropWhile_append_of_pos hgap]
  exact Chars.trimStart_eq_self hrest

variable (o : KeyOperator)

theorem head?_text {c : Char} (rest : List Char)
    (h : (o.comparison.text.toList ++ rest).head? = some c) : Chars.isBlank c = false := by
  rw [List.head?_append_of_ne_nil _ o.comparison.text_toList_ne_nil] at h
  exact Chars.isBlank_of_isSign (o.comparison.isSign_of_mem_text c (List.mem_of_mem_head? h))

/-- A column with an operator alone is no predicate. -/
theorem not_isPredicate_shown (d : Dialect) (column : String) (value : Value) :
    ¬IsPredicate d column value (column ++ String.ofList o.shown) := by
  have hword {text : String} (hI : 'I' ∈ text.toList) :
      column ++ String.ofList o.shown ≠ column ++ text := by
    intro h
    rw [← (String.append_right_inj column).1 h, String.toList_ofList] at hI
    cases o.isMark_of_mem_shown 'I' hI
  rintro (⟨o', h⟩ | h | h)
  · have hchars := congrArg String.toList ((String.append_right_inj column).1 h)
    rw [String.toList_append, String.toList_append, String.toList_ofList, String.toList_ofList,
      written, shown, List.append_assoc, List.append_assoc] at hchars
    -- there is a blank behind the signs of one of the two, and none behind those of the other
    have hsigns := congrArg (List.dropWhile Chars.isBlank) hchars
    rw [dropWhile_blanks o'.blank fun c => o'.head?_text _] at hsigns
    have hown : o.comparison.text.toList = o.comparison.text.toList ++ [] :=
      (List.append_nil _).symm
    rw [hown, dropWhile_blanks o.isBlank_of_mem_squeezeGaps fun c => o.head?_text _, ← hown]
      at hsigns
    have hspace : ' ' ∈ o.comparison.text.toList := by
      rw [hsigns]
      exact List.mem_append_right _ (List.mem_cons_self ..)
    cases o.comparison.isSign_of_mem_text ' ' hspace
  · exact hword (by decide) h
  · exact hword (by decide) h

end KeyOperator

theorem IsPredicate.lead {d : Dialect} {column text : String} {value : Value}
    (h : IsPredicate d column value text) : column.toList <+: text.toList := by
  rcases h with ⟨o, rfl⟩ | rfl | rfl
  all_goals
    rw [String.toList_append]
    exact List.prefix_append _ _

theorem Identifier.Rules.edge_eq_nil_iff (r : Identifier.Rules) :
    r.edge r.quoting = [] ↔ ¬r.Quotes := by
  unfold Identifier.Rules.edge Identifier.Rules.Quotes
  cases r.quoting <;> cases r.quote <;> simp

namespace Builder

open Identifier.Rules (path)
open KeyOperator (behind shownBehind predicate)

/-- A column with what a key has behind it. -/
def keyText (parts : List (List Char)) (o? : Option KeyOperator) : String :=
  String.ofList (path parts ++ behind o?)

/-- A column by itself. -/
def pathColumn (style : Style) (b : Builder) (parts : List (List Char)) : String :=
  b.column style (String.ofList (path parts))

theorem condition_of_isNull (style : Style) (b : Builder) (key : String) {value : Value}
    (h : value.isNull = true) : b.condition style key value =
      if hasOperator key then b.column style key else b.column style key ++ " IS NULL" :=
  if_pos h

theorem condition_of_not_isNull (style : Style) (b : Builder) (key : String) {value : Value}
    (h : value.isNull = false) : b.condition style key value =
      (if hasOperator (b.column style key) then b.column style key
        else b.column style key ++ " =") ++ " " ++ style.dialect.literal value :=
  if_neg (Bool.eq_false_iff.1 h)

variable {style : Style} {parts : List (List Char)} (hr : style.rules.Signless)
  (hparts : style.rules.ColumnPath parts) (b : Builder)
include hr hparts

/-- The operator of a key in its protected column. -/
theorem column_key :
    ∃ lead, (∀ c ∈ lead, Chars.isMark c = false) ∧
      (b.pathColumn style parts).toList = lead ++ style.rules.edge style.rules.quoting ∧
      ∀ o?, ∃ near far, near ++ far = shownBehind o? ∧
        (near = [] ↔ ∀ o, o? = some o → o.Apart) ∧
        (b.column style (keyText parts o?)).toList =
          lead ++ (near ++ (style.rules.edge style.rules.quoting ++ far)) := by
  have hchars (cs : List Char) : (b.column style (String.ofList cs)).toList =
      style.rules.protectChars ⟨b.aliases, false, none, true⟩ cs := by
    unfold column protect Identifier.Rules.protect
    rw [String.toList_ofList, String.toList_ofList]
  unfold pathColumn keyText
  simp only [hchars]
  exact Identifier.Rules.protectChars_key hr hparts rfl

/-- A column without an operator is compared for equality, or with NULL. -/
theorem condition_plain (value : Value) :
    b.condition style (keyText parts none) value =
      predicate style.dialect (b.pathColumn style parts) value none := by
  obtain ⟨lead, hlead, hcolumn, -⟩ := column_key hr hparts b
  have hkey : keyText parts none = String.ofList (path parts) :=
    congrArg String.ofList (List.append_nil _)
  have hclean : hasOperator (b.pathColumn style parts) = false := by
    refine not_hasOperator fun c hc => ?_
    rw [hcolumn] at hc
    rcases List.mem_append.1 hc with hc | hc
    · exact hlead c hc
    · exact Identifier.Rules.not_isMark_of_mem_edge hr c hc
  have hbare : hasOperator (String.ofList (path parts)) = false := by
    refine not_hasOperator fun c hc => ?_
    rw [String.toList_ofList] at hc
    exact hparts.not_isMark c hc
  rw [hkey]
  cases hnull : value.isNull with
  | true =>
    rw [condition_of_isNull style b _ hnull, hbare, predicate, hnull]
    rfl
  | false =>
    have hequal : " = " = " =" ++ " " := by decide
    have hcolumn : hasOperator (b.column style (String.ofList (path parts))) = false := hclean
    rw [condition_of_not_isNull style b _ hnull, hcolumn, predicate, hnull, hequal]
    exact (String.append_assoc ..).trans (String.append_assoc ..)

/-- An operator of the key's own is left to itself. -/
theorem condition_operator (o : KeyOperator) (value : Value) :
    b.condition style (keyText parts (some o)) value =
      b.column style (keyText parts (some o)) ++
        if value.isNull then "" else " " ++ style.dialect.literal value := by
  obtain ⟨lead, -, -, hkeys⟩ := column_key hr hparts b
  obtain ⟨near, far, happend, -, hcolumn⟩ := hkeys (some o)
  obtain ⟨c, hc, hwritten, hshown⟩ := o.exists_sign
  have hkey : hasOperator (keyText parts (some o)) = true := by
    refine hasOperator_of_sign ?_ hc
    rw [keyText, String.toList_ofList]
    exact List.mem_append_right _ hwritten
  have hprotected : hasOperator (b.column style (keyText parts (some o))) = true := by
    refine hasOperator_of_sign ?_ hc
    have hmem : c ∈ near ++ far := happend ▸ hshown
    rw [hcolumn]
    rcases List.mem_append.1 hmem with hmem | hmem
    · exact List.mem_append_right _ (List.mem_append_left _ hmem)
    · exact List.mem_append_right _ (List.mem_append_right _ (List.mem_append_right _ hmem))
  cases hnull : value.isNull with
  | true => rw [condition_of_isNull style b _ hnull, if_pos hkey, if_pos rfl, String.append_empty]
  | false =>
    rw [condition_of_not_isNull style b _ hnull, if_pos hprotected, if_neg Bool.false_ne_true,
      String.append_assoc]

/-- Where nothing but the operator is behind the column, it stands behind the quotes. -/
theorem column_key_of_fits (o : KeyOperator) (h : style.rules.Quotes → o.Apart) :
    b.column style (keyText parts (some o)) =
      b.pathColumn style parts ++ String.ofList o.shown := by
  obtain ⟨lead, -, hcolumn, hkeys⟩ := column_key hr hparts b
  obtain ⟨near, far, happend, hnear, hkey⟩ := hkeys (some o)
  refine String.toList_inj.1 ?_
  have hshown : near ++ far = o.shown := happend
  rw [hkey, String.toList_append, hcolumn, String.toList_ofList, List.append_assoc, ← hshown]
  by_cases hquotes : style.rules.Quotes
  · have hnil : near = [] := hnear.2 fun o' ho' => Option.some_inj.1 ho' ▸ h hquotes
    rw [hnil, List.nil_append, List.nil_append]
  · rw [(Identifier.Rules.edge_eq_nil_iff _).2 hquotes, List.nil_append, List.nil_append]

/-- An operator inside of the quotes comes before they are closed. -/
theorem not_isPredicate_quoted (o : KeyOperator) (value : Value) (hquotes : style.rules.Quotes)
    (happart : ¬o.Apart) (tail : String) :
    ¬IsPredicate style.dialect (b.pathColumn style parts) value
      (b.column style (keyText parts (some o)) ++ tail) := by
  intro h
  obtain ⟨lead, -, hcolumn, hkeys⟩ := column_key hr hparts b
  obtain ⟨near, far, happend, hnear, hkey⟩ := hkeys (some o)
  have hlead := h.lead
  rw [String.toList_append, hkey, hcolumn, List.append_assoc, List.append_assoc,
    List.prefix_append_right_inj] at hlead
  have hedge : style.rules.edge style.rules.quoting ≠ [] := fun hnil =>
    (Identifier.Rules.edge_eq_nil_iff _).1 hnil hquotes
  have hne : near ≠ [] := fun hnil => happart (hnear.1 hnil o rfl)
  -- the quote that closes the column would be a mark
  obtain ⟨q, more, hq⟩ := List.exists_cons_of_ne_nil hedge
  obtain ⟨c, rest, hc⟩ := List.exists_cons_of_ne_nil hne
  have hsame : q = c := by
    rw [hq, hc] at hlead
    exact (List.cons_prefix_cons.1 hlead).1
  have hquote : Chars.isMark q = false :=
    Identifier.Rules.not_isMark_of_mem_edge hr q (by rw [hq]; exact List.mem_cons_self ..)
  have hmark : Chars.isMark c = true := by
    refine KeyOperator.isMark_of_mem_shownBehind (some o) c ?_
    rw [← happend, hc]
    exact List.mem_cons_self ..
  rw [hsame, hmark] at hquote
  cases hquote

/-- What fits gives its predicate. -/
theorem condition_of_fits {o? : Option KeyOperator} {value : Value}
    (h : KeyOperator.Fits style.rules value o?) :
    b.condition style (keyText parts o?) value =
      predicate style.dialect (b.pathColumn style parts) value o? := by
  cases o? with
  | none => exact condition_plain hr hparts b value
  | some o =>
    obtain ⟨hvalue, happart⟩ := h o rfl
    have hassoc (column shown literal : String) :
        column ++ shown ++ (" " ++ literal) = column ++ (shown ++ " " ++ literal) := by
      rw [String.append_assoc, String.append_assoc]
    rw [condition_operator hr hparts, column_key_of_fits hr hparts b o happart, hvalue,
      if_neg Bool.false_ne_true, hassoc]
    rfl

/-- **Which keys and values give a predicate.** A key without an operator does. One with an operator
does if there is a value and, where identifiers are quoted, a space or a tab before the operator. -/
theorem isPredicate_condition_iff (o? : Option KeyOperator) (value : Value) :
    IsPredicate style.dialect (b.pathColumn style parts) value
        (b.condition style (keyText parts o?) value) ↔ KeyOperator.Fits style.rules value o? := by
  refine ⟨fun h o ho => ?_, fun h => ?_⟩
  · subst ho
    rw [condition_operator hr hparts] at h
    have happart : style.rules.Quotes → o.Apart := fun hquotes => by
      by_contra happart
      exact not_isPredicate_quoted hr hparts b o value hquotes happart _ h
    refine ⟨Bool.eq_false_iff.2 fun hnull => ?_, happart⟩
    rw [if_pos hnull, String.append_empty, column_key_of_fits hr hparts b o happart] at h
    exact o.not_isPredicate_shown _ _ _ h
  · rw [condition_of_fits hr hparts b h]
    exact KeyOperator.isPredicate_predicate ..

end Builder

/-! ## Calls -/

/-- A call that compares columns with values. -/
inductive PredicateCall where
  | whereValue (connector : Connector) (key : String) (value : Value)
  | whereAll (pairs : List (String × Value))
  | havingValue (connector : Connector) (key : String) (value : Value)

namespace PredicateCall

def apply (style : Style) (b : Builder) : PredicateCall → Builder
  | whereValue connector key value => b.whereValue style connector key value
  | whereAll pairs => b.whereAll style pairs
  | havingValue connector key value => b.havingValue style connector key value

/-- The keys with their values. -/
def pairs : PredicateCall → List (String × Value)
  | whereValue _ key value => [(key, value)]
  | whereAll pairs => pairs
  | havingValue _ key value => [(key, value)]

/-- Adds the text of one condition as the call does. -/
def addText (call : PredicateCall) (b : Builder) (text : String) : Builder :=
  match call with
  | whereValue connector _ _ => b.addWhere connector text
  | whereAll _ => b.addWhere .and text
  | havingValue connector _ _ => b.addHaving connector text

theorem condition_addWhere (style : Style) (b : Builder) (connector : Connector) (text key : String)
    (value : Value) :
    (b.addWhere connector text).condition style key value = b.condition style key value := by
  have haliases : (b.addWhere connector text).aliases = b.aliases := by
    unfold Builder.addWhere Builder.add Builder.aliases
    dsimp only
    cases b.caching <;> rfl
  unfold Builder.condition Builder.column Builder.protect
  rw [haliases]

/-- A call adds one condition for each pair, with the column protected as it was before the call. -/
theorem apply_eq (style : Style) (b : Builder) (call : PredicateCall) :
    call.apply style b =
      (call.pairs.map fun pair => b.condition style pair.1 pair.2).foldl call.addText b := by
  cases call with
  | whereValue => rfl
  | havingValue => rfl
  | whereAll pairs =>
    show b.whereAll style pairs = (pairs.map _).foldl (fun b text => b.addWhere .and text) b
    unfold Builder.whereAll
    induction pairs generalizing b with
    | nil => rfl
    | cons pair pairs ih =>
      have hlater (text : String) :
          (pairs.map fun p => (b.addWhere .and text).condition style p.1 p.2) =
            pairs.map fun p => b.condition style p.1 p.2 :=
        List.map_congr_left fun p _ => condition_addWhere ..
      rw [List.map_cons, List.foldl_cons, List.foldl_cons, ← hlater]
      exact ih _

/-- **What a call adds**, for every builder, and for keys that are a column with or without an
operator behind it. The text of such a pair is a predicate of the protected column exactly if the
key has no operator, or there is a value and where identifiers are quoted a space or a tab before
the operator; and then it is the column with the key's own operator, with equality, or with NULL. -/
theorem adds_predicates {style : Style} (hr : style.rules.Signless) (b : Builder)
    (call : PredicateCall) :
    ∃ texts, call.apply style b = texts.foldl call.addText b ∧
      List.Forall₂ (fun pair text => ∀ parts o?, style.rules.ColumnPath parts →
        pair.1 = Builder.keyText parts o? →
          (IsPredicate style.dialect (b.pathColumn style parts) pair.2 text ↔
            KeyOperator.Fits style.rules pair.2 o?) ∧
          (KeyOperator.Fits style.rules pair.2 o? → text =
            KeyOperator.predicate style.dialect (b.pathColumn style parts) pair.2 o?))
        call.pairs texts := by
  refine ⟨_, apply_eq style b call, ?_⟩
  rw [List.forall₂_map_right_iff, List.forall₂_same]
  rintro ⟨key, value⟩ - parts o? hparts rfl
  exact ⟨Builder.isPredicate_condition_iff hr hparts b o? value,
    Builder.condition_of_fits hr hparts b⟩

/-- Identifiers are quoted, and tables have a prefix. -/
def quotingStyle : Style :=
  ⟨.mysql, ⟨"app_", "", some '\u0060', true⟩⟩

/-- An operator behind a space, and a column without a value. -/
theorem adds_predicates_apart :
    quotingStyle.rules.Signless ∧
      (whereAll [("users.age >=", .int 18), ("name", .null)]).apply quotingStyle .empty =
        ["`app_users`.`age` >= 18", "`name` IS NULL"].foldl (fun b text => b.addWhere .and text)
          .empty := by
  have hr : quotingStyle.rules.Signless := by
    refine ⟨?_, List.all_iff_forall_prop.1 (by decide), List.all_iff_forall_prop.1 (by decide)⟩
    rintro q ⟨⟩
    decide
  obtain ⟨texts, happly, hall⟩ := adds_predicates hr .empty
    (whereAll [("users.age >=", .int 18), ("name", .null)])
  obtain ⟨age, rest, hage, hrest, rfl⟩ := List.forall₂_cons_left_iff.1 hall
  obtain ⟨name, none, hname, hnone, rfl⟩ := List.forall₂_cons_left_iff.1 hrest
  obtain rfl := List.forall₂_nil_left_iff.1 hnone
  have hagePath : quotingStyle.rules.ColumnPath ["users".toList, "age".toList] := by
    refine ⟨List.cons_ne_nil _ _, List.all_iff_forall_prop.1 (by decide), ?_⟩
    exact List.forall_mem_cons.2 ⟨List.all_iff_forall_prop.1 (by decide),
      List.forall_mem_singleton.2 (List.all_iff_forall_prop.1 (by decide))⟩
  have hnamePath : quotingStyle.rules.ColumnPath ["name".toList] := by
    refine ⟨List.cons_ne_nil _ _, List.all_iff_forall_prop.1 (by decide), ?_⟩
    exact List.forall_mem_singleton.2 (List.all_iff_forall_prop.1 (by decide))
  have hage : age = "`app_users`.`age` >= 18" :=
    ((hage _ (some (.spaced .atLeast)) hagePath (by decide +kernel)).2
      fun o ho => ⟨rfl, fun _ => .inl (by cases ho; rfl)⟩).trans (by decide +kernel)
  have hname : name = "`name` IS NULL" :=
    ((hname _ none hnamePath (by decide +kernel)).2 nofun).trans (by decide +kernel)
  rw [hage, hname] at happly
  exact ⟨hr, happly⟩

/-- The sign comes into the quotes when nothing is before it, and has no operand when there is no
value. -/
theorem operator_misplaced :
    (Builder.empty.whereValue quotingStyle .and "age>" (.int 5)).live.wheres =
        [⟨none, "`age>` 5"⟩] ∧
      ¬IsPredicate .mysql "`age`" (.int 5) "`age>` 5" ∧
      (Builder.empty.whereValue quotingStyle .and "age >" .null).live.wheres =
        [⟨none, "`age` >"⟩] ∧
      ¬IsPredicate .mysql "`age`" .null "`age` >" := by
  have hquoted : ¬"`age`".toList <+: "`age>` 5".toList := by decide
  have hshown := KeyOperator.not_isPredicate_shown (.spaced .greater) .mysql "`age`" .null
  exact ⟨by decide +kernel, fun h => hquoted h.lead, by decide +kernel, hshown⟩

end PredicateCall

end SqlGateway

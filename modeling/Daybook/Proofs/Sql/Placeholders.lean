import Daybook.Proofs.Sql.Numbering

/-!
# Placeholders in a text

What a reader of a finished text finds: a dollar sign with digits after it.  If no name in a
statement contains a dollar sign, these are the placeholders and nothing else, from 1 on.
-/

namespace Daybook.Sql

namespace Fragment

/-- The placeholders from left to right: each dollar sign with the digits after it. -/
def placeholders : List Char → List String
  | [] => []
  | c :: s =>
    if c = '$' then .ofList ('$' :: s.takeWhile Char.isDigit) :: placeholders s
    else placeholders s

/-- Text without the sign has no placeholders. -/
theorem placeholders_append_of_notMem {s : List Char} (h : '$' ∉ s) (rest : List Char) :
    placeholders (s ++ rest) = placeholders rest := by
  induction s with
  | nil => rfl
  | cons c s ih =>
    obtain ⟨hc, hs⟩ := List.ne_and_not_mem_of_not_mem_cons h
    rw [List.cons_append, placeholders, if_neg (Ne.symm hc), ih hs]

theorem toList_mark (number : Nat) : (mark number).toList = '$' :: Nat.toDigits 10 number := by
  rw [mark, String.toList_append, Nat.toString_eq_repr, Nat.toList_repr]
  rfl

/-- A mark is found with all its digits if no other digit follows. -/
theorem placeholders_mark (number : Nat) {rest : List Char}
    (h : ∀ c ∈ rest.head?, c.isDigit = false) :
    placeholders ((mark number).toList ++ rest) = mark number :: placeholders rest := by
  have hdigit : ∀ c ∈ Nat.toDigits 10 number, c.isDigit := fun c hc =>
    Nat.isDigit_of_mem_toDigits (by decide) (by decide) hc
  have hplain : '$' ∉ Nat.toDigits 10 number := fun hmem => absurd (hdigit '$' hmem) (by decide)
  have hnone : rest.takeWhile Char.isDigit = [] := by
    cases rest with
    | nil => rfl
    | cons c rest => exact List.takeWhile_cons_of_neg (by simpa using h c rfl)
  rw [toList_mark, List.cons_append, placeholders, if_pos rfl, placeholders_append_of_notMem hplain,
    List.takeWhile_append_of_pos hdigit, hnone, List.append_nil, ← toList_mark,
    String.ofList_toList]

/-- The fragment cannot be taken for a part of a placeholder: it is a value, or a text without
dollar signs that does not start with a digit. -/
def isPlain : Fragment → Bool
  | text words => words.toList.head?.any (fun c => !c.isDigit) && !words.toList.contains '$'
  | parameter _ => true

theorem head_numbered {next : Nat} {fragments : List Fragment}
    (h : ∀ fragment ∈ fragments, fragment.isPlain) :
    ∀ c ∈ (numbered next fragments).toList.head?, c.isDigit = false := by
  cases fragments with
  | nil => simp [numbered_nil]
  | cons fragment rest =>
    have hfirst := h fragment List.mem_cons_self
    cases fragment with
    | text words =>
      rw [numbered_text, String.toList_append, List.head?_append]
      cases hwords : words.toList with
      | nil => simp [isPlain, hwords] at hfirst
      | cons d s =>
        rintro c ⟨⟩
        simpa [isPlain, hwords] using (Bool.and_eq_true_iff.mp hfirst).1
    | parameter value =>
      rw [numbered_parameter, String.toList_append, toList_mark]
      rintro c ⟨⟩
      rfl

-- The placeholders count on from the number of the first one.  The induction is on the fragments; a
-- number ends where the next fragment starts, as that does not start with a digit.
theorem placeholders_numbered (next : Nat) {fragments : List Fragment}
    (h : ∀ fragment ∈ fragments, fragment.isPlain) :
    placeholders (numbered next fragments).toList =
      (List.range' next (values fragments).length).map mark := by
  induction fragments generalizing next with
  | nil => rfl
  | cons fragment rest ih =>
    have hfirst := h fragment List.mem_cons_self
    have hrest : ∀ fragment ∈ rest, fragment.isPlain := fun other hother =>
      h other (List.mem_cons_of_mem _ hother)
    cases fragment with
    | text words =>
      have hplain : '$' ∉ words.toList := by
        simpa using (Bool.and_eq_true_iff.mp hfirst).2
      rw [numbered_text, String.toList_append, placeholders_append_of_notMem hplain, ih next hrest,
        values_text]
    | parameter value =>
      rw [numbered_parameter, String.toList_append, placeholders_mark next (head_numbered hrest),
        ih (next + 1) hrest, values_parameter, List.length_cons, List.range'_succ, List.map_cons]

-- Only where a piece starts can it run into the digits before it.
theorem isPlain_append {words : String} (h : (text words).isPlain) {more : String}
    (hmore : '$' ∉ more.toList) : (text (words ++ more)).isPlain := by
  obtain ⟨hhead, hdollar⟩ := Bool.and_eq_true_iff.mp h
  refine Bool.and_eq_true_iff.mpr ⟨?_, ?_⟩
  · rw [String.toList_append, List.head?_append]
    cases hwords : words.toList.head? with
    | none => simp [hwords] at hhead
    | some c => rwa [hwords] at hhead
  · simp only [String.toList_append, List.contains_append, Bool.not_or, hdollar]
    simpa using hmore

/-- Joined fragments are plain if they and the separator are. -/
theorem isPlain_of_mem_joined {separator : String} (hseparator : (text separator).isPlain)
    {rows : List (List Fragment)} (h : ∀ row ∈ rows, ∀ fragment ∈ row, fragment.isPlain) :
    ∀ fragment ∈ joined separator rows, fragment.isPlain := by
  unfold joined
  induction rows with
  | nil => simp
  | cons row rows ih =>
    have hrow := h row List.mem_cons_self
    have hrows := ih fun other hother => h other (List.mem_cons_of_mem _ hother)
    cases rows with
    | nil => rwa [List.intercalate_singleton]
    | cons second rest =>
      rw [List.intercalate_cons_cons]
      intro fragment hmem
      rcases List.mem_append.mp hmem with hfirst | hlater
      · rcases List.mem_append.mp hfirst with hown | hbetween
        · exact hrow fragment hown
        · rwa [List.mem_singleton.mp hbetween]
      · exact hrows fragment hlater

theorem isPlain_of_mem_clause {keyword separator : String} (hkeyword : (text keyword).isPlain)
    {rows : List (List Fragment)} (h : ∀ fragment ∈ joined separator rows, fragment.isPlain) :
    ∀ fragment ∈ clause keyword separator rows, fragment.isPlain := by
  unfold clause
  split
  · simp
  · exact List.forall_mem_cons.mpr ⟨hkeyword, h⟩

end Fragment

open Fragment

/-! ## Names in queries -/

def Column.names (column : Column) : List String := column.relation.toList ++ [column.name]

def Projection.names : Projection → List String
  | every relation => [relation]
  | plain column => column.names
  | named column name => column.names ++ [name]
  | rowCount => []

def Join.names (join : Join) : List String :=
  join.table :: join.left.names ++ join.right.names

def Clauses.names (clauses : Clauses) : List String :=
  clauses.projections.flatMap Projection.names ++ clauses.joins.flatMap Join.names ++
    clauses.conditions.flatMap (fun condition => condition.column.names) ++
    clauses.order.flatMap fun term => term.column.names

def Select.names : Select → List String
  | ofTable table clauses => table :: clauses.names
  | ofSelect source name clauses => name :: source.names ++ clauses.names

/-- None of the names contains the sign that placeholders start with. -/
def Unmarked (names : List String) : Prop := ∀ name ∈ names, '$' ∉ name.toList

theorem unmarked_append {names more : List String} :
    Unmarked (names ++ more) ↔ Unmarked names ∧ Unmarked more := List.forall_mem_append

theorem unmarked_cons {name : String} {names : List String} :
    Unmarked (name :: names) ↔ '$' ∉ name.toList ∧ Unmarked names := List.forall_mem_cons

theorem unmarked_flatMap {α : Type} {cs : List α} {names : α → List String} :
    Unmarked (cs.flatMap names) ↔ ∀ c ∈ cs, Unmarked (names c) := List.forall_mem_flatMap

/-! ## Texts without placeholders -/

/-- Quoting brings in quotes only. -/
theorem dollar_notMem_quoteName {name : String} (h : '$' ∉ name.toList) :
    '$' ∉ (quoteName name).toList := by
  have hinner : '$' ∉ name.toList.flatMap fun c => if c = '"' then ['"', '"'] else [c] := by
    intro hmem
    obtain ⟨c, hc, hin⟩ := List.mem_flatMap.mp hmem
    split at hin
    · simp at hin
    · exact h (List.mem_singleton.mp hin ▸ hc)
  simp only [quoteName, String.toList_append, String.toList_ofList, List.mem_append, not_or]
  exact ⟨⟨by decide, hinner⟩, by decide⟩

theorem isPlain_quoteName {name : String} (h : '$' ∉ name.toList) :
    (text (quoteName name)).isPlain := by
  have hdollar := dollar_notMem_quoteName h
  rw [quoteName, String.append_assoc] at hdollar ⊢
  refine isPlain_append (by decide) fun hmem => hdollar ?_
  rw [String.toList_append]
  exact List.mem_append_right _ hmem

/-- Columns with unmarked names are written plainly. -/
theorem Column.isPlain_text {column : Column} (h : Unmarked column.names) :
    (Fragment.text column.text).isPlain := by
  obtain ⟨relation, name⟩ := column
  cases relation with
  | none => exact isPlain_quoteName (h name List.mem_cons_self)
  | some relation =>
    obtain ⟨hrelation, hname⟩ := unmarked_cons.mp h
    exact isPlain_append (isPlain_append (isPlain_quoteName hrelation) (by decide))
      (dollar_notMem_quoteName (hname name List.mem_cons_self))

theorem Column.dollar_notMem_text {column : Column} (h : Unmarked column.names) :
    '$' ∉ column.text.toList := by
  simpa using (Bool.and_eq_true_iff.mp (Column.isPlain_text h)).2

theorem Projection.isPlain_text {projection : Projection} (h : Unmarked projection.names) :
    (Fragment.text projection.text).isPlain := by
  cases projection with
  | every relation =>
    exact isPlain_append (isPlain_quoteName (h relation List.mem_cons_self)) (by decide)
  | plain column => exact Column.isPlain_text h
  | named column name =>
    obtain ⟨hcolumn, hname⟩ := unmarked_append.mp h
    exact isPlain_append (isPlain_append (Column.isPlain_text hcolumn) (by decide))
      (dollar_notMem_quoteName (hname name List.mem_cons_self))
  | rowCount => decide

theorem Join.isPlain_text {join : Join} (h : Unmarked join.names) :
    (Fragment.text join.text).isPlain := by
  obtain ⟨htable, hcolumns⟩ := unmarked_cons.mp h
  obtain ⟨hleft, hright⟩ := unmarked_append.mp hcolumns
  have hwords : ∀ keyword : String, (Fragment.text keyword).isPlain →
      (Fragment.text (keyword ++ quoteName join.table ++ " ON " ++ join.left.text ++ " = " ++
        join.right.text)).isPlain := fun keyword hkeyword =>
    isPlain_append (isPlain_append (isPlain_append (isPlain_append (isPlain_append hkeyword
      (dollar_notMem_quoteName htable)) (by decide)) (Column.dollar_notMem_text hleft))
      (by decide)) (Column.dollar_notMem_text hright)
  obtain ⟨kind, table, left, right⟩ := join
  cases kind
  · exact hwords " INNER JOIN " (by decide)
  · exact hwords " LEFT JOIN " (by decide)

theorem OrderTerm.isPlain_text {term : OrderTerm} (h : Unmarked term.column.names) :
    (Fragment.text term.text).isPlain := by
  unfold OrderTerm.text
  cases term.direction <;> exact isPlain_append (Column.isPlain_text h) (by decide)

-- A list of texts is plain when each of them is.
theorem isPlain_of_mem_texts {α : Type} {cs : List α} {words : α → String}
    (h : ∀ c ∈ cs, (text (words c)).isPlain) :
    ∀ fragment ∈ joined ", " (cs.map fun c => [text (words c)]), fragment.isPlain := by
  apply isPlain_of_mem_joined (by decide)
  intro row hrow fragment hfragment
  obtain ⟨c, hc, rfl⟩ := List.mem_map.mp hrow
  rw [List.mem_singleton.mp hfragment]
  exact h c hc

namespace Condition

/-- The marks of a list are kept apart by commas. -/
theorem isPlain_of_mem_listFragments {column : Column} (h : Unmarked column.names)
    {operator : String} (hoperator : '$' ∉ operator.toList) (values : List Value) :
    ∀ fragment ∈ listFragments column operator values, fragment.isPlain := by
  have hwords : (text (column.text ++ " " ++ operator ++ " (")).isPlain :=
    isPlain_append (isPlain_append (isPlain_append (Column.isPlain_text h) (by decide)) hoperator)
      (by decide)
  intro fragment hfragment
  rw [listFragments, List.cons_append] at hfragment
  rcases List.mem_cons.mp hfragment with rfl | hlater
  · exact hwords
  · rcases List.mem_append.mp hlater with hmem | hlast
    · refine isPlain_of_mem_joined (by decide) ?_ fragment hmem
      intro row hrow parameter hparameter
      obtain ⟨value, _, rfl⟩ := List.mem_map.mp hrow
      rw [List.mem_singleton.mp hparameter]
      rfl
    · rw [List.mem_singleton.mp hlast]
      decide

/-- A condition on an unmarked column is plain, whatever its values. -/
theorem isPlain_of_mem_fragments {condition : Condition} (h : Unmarked condition.column.names) :
    ∀ fragment ∈ condition.fragments, fragment.isPlain := by
  have hnumbers : ∀ left right, ∀ fragment ∈ numbersEqual left right, fragment.isPlain := by
    intro left right
    rw [numbersEqual, List.forall_mem_cons, List.forall_mem_cons, List.forall_mem_singleton]
    exact ⟨rfl, by decide, rfl⟩
  cases condition with
  | compare column comparison value =>
    have hwords : (text (column.text ++ " " ++ comparison.symbol ++ " ")).isPlain :=
      isPlain_append (isPlain_append (isPlain_append (Column.isPlain_text h) (by decide))
        (by cases comparison <;> decide)) (by decide)
    rw [fragments, List.forall_mem_cons, List.forall_mem_singleton]
    exact ⟨hwords, rfl⟩
  | anyOf column values =>
    cases values with
    | nil => exact hnumbers 1 2
    | cons value values => exact isPlain_of_mem_listFragments h (by decide) (value :: values)
  | noneOf column values =>
    cases values with
    | nil => exact hnumbers 1 1
    | cons value values => exact isPlain_of_mem_listFragments h (by decide) (value :: values)

theorem isPlain_of_mem_conjunction {conditions : List Condition}
    (h : ∀ condition ∈ conditions, Unmarked condition.column.names) :
    ∀ row ∈ conjunction conditions, ∀ fragment ∈ row, fragment.isPlain := by
  unfold conjunction
  split
  · rename_i condition
    rw [List.forall_mem_singleton]
    exact isPlain_of_mem_fragments (h condition List.mem_cons_self)
  · intro row hrow
    obtain ⟨condition, hcondition, rfl⟩ := List.mem_map.mp hrow
    have hown := isPlain_of_mem_fragments (h condition hcondition)
    unfold conjunct
    split
    · intro fragment hfragment
      rcases List.mem_cons.mp hfragment with rfl | hlater
      · decide
      · rcases List.mem_append.mp hlater with hmem | hlast
        · exact hown fragment hmem
        · rw [List.mem_singleton.mp hlast]
          decide
    · exact hown

end Condition

/-! ## Placeholders of queries -/

namespace Clauses

variable {clauses : Clauses}

theorem isPlain_of_mem_head (h : Unmarked clauses.names) :
    ∀ fragment ∈ clauses.head, fragment.isPlain := by
  simp only [names, unmarked_append, unmarked_flatMap] at h
  intro fragment hfragment
  rw [head, List.cons_append] at hfragment
  rcases List.mem_cons.mp hfragment with rfl | hlater
  · decide
  · rcases List.mem_append.mp hlater with hmem | hlast
    · exact isPlain_of_mem_texts (fun projection hprojection =>
        Projection.isPlain_text (h.1.1.1 projection hprojection)) fragment hmem
    · rw [List.mem_singleton.mp hlast]
      decide

/-- All that follows the source of a statement is plain. -/
theorem isPlain_of_mem_tail (h : Unmarked clauses.names) :
    ∀ fragment ∈ clauses.tail, fragment.isPlain := by
  have hrows : ∀ {keyword : String} {rows : Option Nat}, (text keyword).isPlain →
      ∀ fragment ∈ clause keyword "" (rows.toList.map fun n =>
        [parameter (.bigUnsigned (some n))]), fragment.isPlain := by
    intro keyword rows hkeyword
    apply isPlain_of_mem_clause hkeyword
    cases rows <;> simp [joined, isPlain]
  simp only [names, unmarked_append, unmarked_flatMap] at h
  obtain ⟨⟨⟨_, hjoins⟩, hconditions⟩, horder⟩ := h
  intro fragment hfragment
  simp only [tail, List.mem_append, or_assoc] at hfragment
  rcases hfragment with hjoin | hwhere | hterms | hlimit | hoffset
  · obtain ⟨join, hmem, rfl⟩ := List.mem_map.mp hjoin
    exact Join.isPlain_text (hjoins join hmem)
  · exact isPlain_of_mem_clause (by decide) (isPlain_of_mem_joined (by decide)
      (Condition.isPlain_of_mem_conjunction hconditions)) fragment hwhere
  · exact isPlain_of_mem_clause (by decide) (isPlain_of_mem_texts fun term hterm =>
      OrderTerm.isPlain_text (horder term hterm)) fragment hterms
  · exact hrows (by decide) fragment hlimit
  · exact hrows (by decide) fragment hoffset

end Clauses

namespace Select

/-- A statement with unmarked names is plain, the sources within it included. -/
theorem isPlain_of_mem_fragments {query : Select} (h : Unmarked query.names) :
    ∀ fragment ∈ query.fragments, fragment.isPlain := by
  induction query with
  | ofTable table clauses =>
    obtain ⟨htable, hclauses⟩ := unmarked_cons.mp h
    intro fragment hfragment
    simp only [fragments, List.mem_append, List.mem_cons] at hfragment
    rcases hfragment with hhead | rfl | htail
    · exact Clauses.isPlain_of_mem_head hclauses fragment hhead
    · exact isPlain_quoteName htable
    · exact Clauses.isPlain_of_mem_tail hclauses fragment htail
  | ofSelect source name clauses ih =>
    obtain ⟨hname, hrest⟩ := unmarked_cons.mp h
    obtain ⟨hsource, hclauses⟩ := unmarked_append.mp hrest
    intro fragment hfragment
    simp only [fragments, List.append_assoc, List.cons_append, List.mem_append, List.mem_cons]
      at hfragment
    rcases hfragment with hhead | rfl | hinner | rfl | htail
    · exact Clauses.isPlain_of_mem_head hclauses fragment hhead
    · decide
    · exact ih hsource fragment hinner
    · exact isPlain_append (by decide) (dollar_notMem_quoteName hname)
    · exact Clauses.isPlain_of_mem_tail hclauses fragment htail

/-- The placeholders of a query stand in the order of their numbers, one for each value. -/
theorem placeholders_compile {query : Select} (h : Unmarked query.names) :
    placeholders query.compile.sql.toList =
      (List.range' 1 query.compile.values.length).map mark :=
  placeholders_numbered 1 (isPlain_of_mem_fragments h)

end Select

end Daybook.Sql

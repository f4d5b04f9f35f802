import Daybook.Proofs.Calendar
import Daybook.Proofs.Listing.ListGrammar
import Daybook.Proofs.Listing.Soundness
import Daybook.Proofs.Listing.TokenGrammar

/-!
# Filter tokens read back

A filter that is written as a token is taken in as the same filter.  What a text may be depends on
where it stands: alone it is read as it is, while the items of a list are trimmed, and an empty item
is no item.
-/

namespace Daybook.Listing

/-! ## Written values -/

namespace FieldValue

def written : FieldValue → String
  | text value => value
  | integer value => toString value
  | boolean value => toString value
  | date value => toString value

theorem decimal_written (n : Int64) : Text.Decimal (written (integer n)).toList n.toInt :=
  Text.decimal_toString n.toInt

theorem isItem_of_digits_and_signs {s : List Char} (hne : s ≠ [])
    (h : ∀ c ∈ s, c.isDigit ∨ c = '-' ∨ c = '+') : IsItem s := by
  have hcomma : ¬((',').isDigit ∨ ',' = '-' ∨ ',' = '+') := by decide
  exact .of_forall hne (fun hmem => hcomma (h ',' hmem)) fun c hc =>
    Text.isBlank_of_isDigit_or (h c hc)

-- Only a text can be written in a way that no list can hold.
theorem isItem_written {value : FieldValue}
    (h : ∀ text, value = FieldValue.text text → IsItem text.toList) :
    IsItem value.written.toList := by
  cases value with
  | text value => exact h value rfl
  | integer n =>
    have hdecimal := decimal_written n
    refine isItem_of_digits_and_signs ?_ fun c hc => hdecimal.isDigit_or hc
    intro hnil
    exact Text.not_decimal_nil (hnil ▸ hdecimal)
  | boolean value => cases value <;> decide
  | date d =>
    have htext : (written (date d)).toList = d.text := String.toList_ofList
    rw [htext]
    refine isItem_of_digits_and_signs ?_ fun c hc => Date.isDigit_or_of_mem_text hc
    exact List.append_ne_nil_of_right_ne_nil _ (List.cons_ne_nil _ _)

/-- Only texts can lose something when they are trimmed. -/
theorem trim_written (value : FieldValue) (h : value.kind ≠ .text) :
    Text.trim value.written.toList = value.written.toList := by
  refine (isItem_written fun text heq => ?_).trimmed.trim_eq
  rw [heq] at h
  exact absurd rfl h

/-- A value that can be stored is read back as it was. -/
theorem read?_written {value : FieldValue} (h : value.Storable) :
    value.kind.read? value.written.toList = some value := by
  cases value with
  | text value => rw [kind, written, FieldKind.read?, if_neg h, String.ofList_toList]
  | integer n =>
    rw [kind, FieldKind.read?, trim_written (integer n) (show FieldKind.integer ≠ .text by decide),
      Text.readInt64_eq_ok_iff.mpr (decimal_written n)]
    rfl
  | boolean value => cases value <;> decide
  | date d =>
    rw [kind, FieldKind.read?, trim_written (date d) (show FieldKind.date ≠ .text by decide)]
    show (Date.read? (String.ofList d.text).toList).map FieldValue.date = _
    rw [String.toList_ofList, Date.read?_text, Option.map_some]

end FieldValue

def bareText (values : List FieldValue) : String :=
  ",".intercalate (values.map FieldValue.written)

/-- The values of a filter as they stand in its token: a list in parentheses, one value alone. -/
def valueText (operator : Operator) (values : List FieldValue) : String :=
  if operator.isList then "(" ++ bareText values ++ ")" else bareText values

theorem toList_bareText (values : List FieldValue) :
    (bareText values).toList =
      [','].intercalate (values.map fun value => value.written.toList) := by
  rw [bareText, String.toList_intercalate, List.map_map]
  rfl

namespace FieldKind

variable {kind : FieldKind} {operator : Operator} {values : List FieldValue}

theorem Fits.read?_written (h : kind.Fits operator values) {value : FieldValue}
    (hvalue : value ∈ values) : kind.read? value.written.toList = some value := by
  rw [← h.kind_eq value hvalue]
  exact FieldValue.read?_written (h.storable value hvalue)

theorem readAll?_of_listItems {raw : List Char} (h : kind.Fits operator values)
    (hlist : operator.isList)
    (hitems : listItems raw = values.map fun value => value.written.toList) :
    kind.readAll? operator raw = some values := by
  have hread : (values.map fun value => value.written.toList).mapM kind.read? = some values := by
    rw [mapM_eq_some_iff, List.map_map]
    exact List.map_congr_left fun value hvalue => h.read?_written hvalue
  rw [readAll?, if_pos hlist, hitems]
  split
  · rename_i hnil
    exact absurd (List.map_eq_nil_iff.mp hnil) h.ne_nil
  · exact hread

/-- Values are read back from the text that is written for their operator. -/
theorem readAll?_valueText (h : kind.Fits operator values)
    (hitems : operator.isList → ∀ value ∈ values, IsItem value.written.toList) :
    kind.readAll? operator (valueText operator values).toList = some values := by
  by_cases hlist : operator.isList
  · apply readAll?_of_listItems h hlist
    rw [valueText, if_pos hlist, String.toList_append, String.toList_append, toList_bareText]
    exact listItems_parenthesized (mt List.map_eq_nil_iff.mp h.ne_nil)
      (List.forall_mem_map.mpr (hitems hlist))
  · obtain ⟨value, rfl⟩ := List.length_eq_one_iff.mp (h.single (Bool.not_eq_true _ ▸ hlist))
    rw [readAll?, valueText, if_neg hlist, if_neg hlist, toList_bareText, List.map_singleton,
      List.intercalate_singleton, h.read?_written List.mem_cons_self, Option.map_some]

/-- Values of a list are read back without parentheses, too. -/
theorem readAll?_bareText (h : kind.Fits operator values) (hlist : operator.isList)
    (hitems : ∀ value ∈ values, IsItem value.written.toList)
    (hbare : ¬Parenthesized (bareText values).toList) :
    kind.readAll? operator (bareText values).toList = some values := by
  apply readAll?_of_listItems h hlist
  rw [toList_bareText] at hbare ⊢
  exact listItems_bare (mt List.map_eq_nil_iff.mp h.ne_nil) (List.forall_mem_map.mpr hitems) hbare

end FieldKind

/-! ## Written tokens -/

def filterToken (field : String) (operator : Operator) (raw : String) : String :=
  field ++ ":" ++ operator.wireName ++ "=" ++ raw

/-- The text can stand before the equals sign of a token, on either side of the colon. -/
structure IsTokenName (name : String) : Prop where
  ne_nil : name.toList ≠ []
  colon_notMem : ':' ∉ name.toList
  equals_notMem : '=' ∉ name.toList

/-- No operator has a colon or an equals sign in its name. -/
theorem Operator.isTokenName_wireName (operator : Operator) : IsTokenName operator.wireName := by
  cases operator <;> exact ⟨by decide, by decide, by decide⟩

-- The value may have colons and equals signs in it, for it starts at the first equals sign.
theorem isToken_filterToken {field : String} (h : IsTokenName field) (operator : Operator)
    (raw : String) :
    IsToken (filterToken field operator raw) (field ++ ":" ++ operator.wireName) raw where
  eq := rfl
  equals_notMem := by simp [h.equals_notMem, operator.isTokenName_wireName.equals_notMem]

theorem isKey_of_isTokenName {field : String} (h : IsTokenName field) (operator : Operator) :
    IsKey (field ++ ":" ++ operator.wireName) field operator.wireName where
  eq := rfl
  field_ne := mt String.toList_eq_nil_iff.mpr h.ne_nil
  name_ne := mt String.toList_eq_nil_iff.mpr operator.isTokenName_wireName.ne_nil
  colon_notMem_field := h.colon_notMem
  colon_notMem_name := operator.isTokenName_wireName.colon_notMem

def Intake.withFilter (intake : Intake) (filter : Filter) : Intake :=
  { intake with params.filters := intake.params.filters ++ [filter] }

variable {policy : Policy} {allowed : AllowedFilter} {operator : Operator}
  {values : List FieldValue}

/-- A filter is taken if its entry permits it and its values can be read. -/
theorem addFilter_of_readAll? {raw : String}
    (hfirst : policy.allow.filter? allowed.field = some allowed) (hname : IsTokenName allowed.field)
    (hpermits : allowed.permits operator)
    (hread : allowed.kind.readAll? operator raw.toList = some values) (intake : Intake) :
    intake.addFilter policy (filterToken allowed.field operator raw) =
      intake.withFilter ⟨allowed.field, operator, values⟩ := by
  have htakes : policy.allow.Takes (allowed.field ++ ":" ++ operator.wireName) raw
      ⟨allowed.field, operator, values⟩ :=
    .intro (isKey_of_isTokenName hname operator) (AllowList.filter?_eq_some_iff.mp hfirst).1
      (List.contains_iff_mem.mp hpermits) (FieldKind.readAll?_eq_some_iff.mp hread)
  have hfilter := Filter.read_eq_ok_iff.mpr ⟨_, raw, isToken_filterToken hname operator raw, htakes⟩
  rw [Intake.addFilter, hfilter, Intake.withFilter]

/-- Round trip: the token of a filter that fits its entry is taken in as that filter.  A list may go
without its parentheses, unless it then looks as if it had them. -/
theorem addFilter_filterToken (hfirst : policy.allow.filter? allowed.field = some allowed)
    (hname : IsTokenName allowed.field) (hpermits : allowed.permits operator)
    (hfits : allowed.kind.Fits operator values)
    (hitems : operator.isList → ∀ text, FieldValue.text text ∈ values → IsItem text.toList)
    (intake : Intake) :
    intake.addFilter policy (filterToken allowed.field operator (valueText operator values)) =
        intake.withFilter ⟨allowed.field, operator, values⟩ ∧
      (operator.isList → ¬Parenthesized (bareText values).toList →
        intake.addFilter policy (filterToken allowed.field operator (bareText values)) =
          intake.withFilter ⟨allowed.field, operator, values⟩) := by
  have hwritten : operator.isList → ∀ value ∈ values, IsItem value.written.toList :=
    fun hlist value hvalue => FieldValue.isItem_written fun text heq =>
      hitems hlist text (heq ▸ hvalue)
  constructor
  · exact addFilter_of_readAll? hfirst hname hpermits
      (FieldKind.readAll?_valueText hfits hwritten) intake
  · intro hlist hbare
    exact addFilter_of_readAll? hfirst hname hpermits
      (FieldKind.readAll?_bareText hfits hlist (hwritten hlist) hbare) intake

/-- Colons, equals signs and parentheses inside a value are part of the value. -/
theorem addFilter_memo_tokens :
    let memo : AllowedFilter := ⟨"memo", [.eq, .noneOf], .text⟩
    let policy : Policy := { allow := ⟨[memo], []⟩ }
    let values : List FieldValue := [.text "(a:b)", .text "c=d (e"]
    memo.kind.Fits .noneOf values ∧
      (∀ text, FieldValue.text text ∈ values → IsItem text.toList) ∧
      (Intake.start policy).addFilter policy "memo:nin=((a:b),c=d (e)" =
        (Intake.start policy).withFilter ⟨"memo", .noneOf, values⟩ ∧
      (Intake.start policy).addFilter policy "memo:nin=(a:b),c=d (e" =
        (Intake.start policy).withFilter ⟨"memo", .noneOf, values⟩ := by
  intro memo policy values
  have hfirst : policy.allow.filter? memo.field = some memo := by decide
  have hfits : memo.kind.Fits .noneOf values :=
    ⟨by decide, nofun, by decide, by decide⟩
  have hitems : ∀ text, FieldValue.text text ∈ values → IsItem text.toList := by
    intro text htext
    simp only [values, List.mem_cons, FieldValue.text.injEq, List.not_mem_nil, or_false] at htext
    rcases htext with rfl | rfl <;> decide
  obtain ⟨hlist, hbare⟩ := addFilter_filterToken hfirst ⟨by decide, by decide, by decide⟩
    (by decide) hfits (fun _ => hitems) (Intake.start policy)
  exact ⟨hfits, hitems, hlist, hbare rfl (by decide)⟩

end Daybook.Listing

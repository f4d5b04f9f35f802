import Daybook.Proofs.Listing.Condition
import Daybook.Proofs.Resource.Statements

/-!
# Every request can be answered

Whatever a request asks for, both statements of a listing can be built, keep to the columns of the
source and bind all their values.
-/

namespace Daybook.Resource

open Listing

/-- The statement keeps to these columns of the source, and all its values can be bound. -/
structure Sound (names : List String) (statement : Sql.Select) : Prop where
  columns : ∀ column ∈ statement.columns, Shown names column
  values : ∀ value ∈ statement.values, value.Bindable

variable {names : List String}

/-- A statement around a sound one is sound if all that it adds can be bound and is shown. -/
theorem Sound.ofSelect {source : Sql.Select} (hsource : Sound names source) (name : String)
    {clauses : Sql.Clauses}
    (hconditions : ∀ condition ∈ clauses.conditions, Shown names condition.column ∧
      ∀ value ∈ condition.values, value.Bindable)
    (horder : ∀ term ∈ clauses.order, Shown names term.column)
    (hlimit : ∀ limit ∈ clauses.limit, limit ≤ Sql.largestBigInt)
    (hoffset : ∀ offset ∈ clauses.offset, offset ≤ Sql.largestBigInt) :
    Sound names (.ofSelect source name clauses) where
  columns column hcolumn := by
    rcases List.mem_append.mp hcolumn with hinner | houter
    · exact hsource.columns column hinner
    · rcases List.mem_append.mp houter with hcondition | hterm
      · obtain ⟨condition, hmem, rfl⟩ := List.mem_map.mp hcondition
        exact (hconditions condition hmem).1
      · obtain ⟨term, hmem, rfl⟩ := List.mem_map.mp hterm
        exact horder term hmem
  values value hvalue := by
    -- The limit and the offset are bound alike.
    have hnumber : ∀ {numbers : Option Nat}, (∀ n ∈ numbers, n ≤ Sql.largestBigInt) →
        value ∈ numbers.toList.map (fun n => .bigUnsigned (some n)) → value.Bindable := by
      intro numbers hbound hmem
      obtain ⟨n, hn, rfl⟩ := List.mem_map.mp hmem
      rintro _ ⟨⟩
      exact hbound n (Option.mem_toList.mp hn)
    rcases List.mem_append.mp hvalue with hinner | houter
    · exact hsource.values value hinner
    · rcases List.mem_append.mp houter with hfirst | hmem
      · rcases List.mem_append.mp hfirst with hcondition | hmem
        · obtain ⟨condition, hmem, hvalue⟩ := List.mem_flatMap.mp hcondition
          exact (hconditions condition hmem).2 value hvalue
        · exact hnumber hlimit hmem
      · exact hnumber hoffset hmem

/-- No text of a sound statement has a NUL. -/
theorem Sound.nul_notMem {statement : Sql.Select} (h : Sound names statement) {text : String}
    (hmem : .string (some text) ∈ statement.compile.values) : '\x00' ∉ text.toList := by
  rw [statement.values_compile] at hmem
  exact h.values _ hmem text rfl

/-- All values of a sound statement can be bound. -/
theorem Sound.exists_arguments {statement : Sql.Select} (h : Sound names statement) :
    ∃ arguments, Sql.arguments statement.compile.values = .ok arguments ∧
      arguments.length = statement.compile.values.length := by
  rw [statement.values_compile]
  exact Sql.exists_arguments h.values

theorem Sound.exists_call {statement : Sql.Select} (h : Sound names statement) :
    ∃ call, statement.compile.call = .ok call := by
  obtain ⟨arguments, harguments, _⟩ := h.exists_arguments
  exact ⟨{ sql := statement.compile.sql, arguments }, by rw [Sql.Compiled.call, harguments]; rfl⟩

namespace Kind

/-- The rules of each kind speak of columns that its source shows. -/
theorem suits (kind : Kind) : kind.resource.rules.Suits kind.resource.source.columnNames := by
  cases kind <;> constructor <;> decide +kernel

theorem sound_source (kind : Kind) :
    Sound kind.resource.source.columnNames kind.resource.source := by
  have hcolumns : kind.resource.source.columns = [] := by cases kind <;> rfl
  have hvalues : kind.resource.source.values = [] := by cases kind <;> rfl
  exact ⟨by simp [hcolumns], by simp [hvalues]⟩

theorem shown_childOrder (kind : Kind) : ∀ term ∈ kind.resource.childOrder,
    Shown kind.resource.source.columnNames term.column := by
  have hrelation : ∀ term ∈ kind.resource.childOrder,
      term.column.relation ≠ some sourceName := by
    cases kind <;> decide
  exact fun term hterm hsource => absurd hsource (hrelation term hterm)

-- The children only add terms of their own tables to the order of their parents.
theorem sound_joinedRows (kind : Kind) (params : Params) {parents : Sql.Select}
    (h : Sound kind.resource.source.columnNames parents) :
    ∃ rows, kind.resource.joinedRows params parents = .ok rows ∧
      Sound kind.resource.source.columnNames rows := by
  obtain ⟨horder, hterm⟩ := kind.suits.order_eq params
  refine ⟨_, joinedRows_eq_ok_iff.mpr ⟨_, horder, rfl⟩, ?_⟩
  apply h.ofSelect
  · simp
  · intro term hmem
    rcases List.mem_append.mp hmem with hparent | hchild
    · exact hterm term hparent
    · exact kind.shown_childOrder term hchild
  · simp
  · simp

/-- A listing whose parameters the policy admits has two sound statements. -/
theorem sound_listing (kind : Kind) {limits : PageLimits} (hlimits : limits.Valid)
    {params : Params} (h : (Policy.mk kind.resource.rules.allow limits).Admits params) :
    ∃ rows count, kind.resource.listing params = .ok (rows, count) ∧
      Sound kind.resource.source.columnNames rows ∧
      Sound kind.resource.source.columnNames count := by
  have hsuits := kind.suits
  obtain ⟨conditions, hconditions, hcondition⟩ := hsuits.exists_conditions h.filters
  obtain ⟨horder, hterm⟩ := hsuits.order_eq params
  -- The policy holds the limit and the offset within what can be bound.
  have hpage : ∃ page, pageOf kind.resource.rules params kind.resource.source = .ok page ∧
      Sound kind.resource.source.columnNames page := by
    refine ⟨_, pageOf_eq_ok_iff.mpr ⟨conditions, _, hconditions, horder, rfl⟩, ?_⟩
    apply kind.sound_source.ofSelect _ hcondition hterm
    · intro limit hlimit
      cases hlimit
      exact Nat.le_trans h.limit_le hlimits.most_le
    · intro offset hoffset
      cases hoffset
      exact h.offset_le
  obtain ⟨page, hpage, hsound⟩ := hpage
  obtain ⟨rows, hrows, hjoined⟩ := kind.sound_joinedRows params hsound
  have hcount : countOf kind.resource.rules params kind.resource.source = _ :=
    countOf_eq_ok_iff.mpr ⟨conditions, hconditions, rfl⟩
  exact ⟨rows, _, listing_eq_ok_iff.mpr ⟨page, hpage, hrows, hcount⟩, hjoined,
    kind.sound_source.ofSelect _ hcondition (by simp) (by simp) (by simp)⟩

/-- A look-up by id has a sound statement, whatever the id. -/
theorem sound_detail (kind : Kind) (id : Int64) :
    ∃ rows, kind.resource.detail id = .ok rows ∧
      Sound kind.resource.source.columnNames rows := by
  have hid : isColumnName "id".toList ∧ "id" ∈ kind.resource.source.columnNames := by
    cases kind <;> decide +kernel
  have hparent : ∃ parent, keyedBy "id" id kind.resource.source = .ok parent ∧
      Sound kind.resource.source.columnNames parent := by
    refine ⟨_, keyedBy_eq_ok_iff.mpr ⟨hid.1, rfl⟩, ?_⟩
    apply kind.sound_source.ofSelect
    · intro condition hcondition
      rw [List.mem_singleton.mp hcondition]
      refine ⟨fun _ => hid.2, fun value hvalue => ?_⟩
      rw [List.mem_singleton.mp hvalue]
      trivial
    · simp
    · simp
    · simp
  obtain ⟨parent, hparent, hsound⟩ := hparent
  obtain ⟨rows, hrows, hjoined⟩ := kind.sound_joinedRows {} hsound
  exact ⟨rows, detail_eq_ok_iff.mpr ⟨parent, hparent, hrows⟩, hjoined⟩

/-- Under limits that fit, every query string leads to a page and a count that can both be asked of
the database. -/
theorem listing_of_pairs (kind : Kind) {limits : PageLimits} (hlimits : limits.Valid)
    (pairs : List (String × String)) :
    ∃ rows count, kind.resource.listing
        (Intake.ofPairs ⟨kind.resource.rules.allow, limits⟩ pairs).params = .ok (rows, count) ∧
      ∀ statement ∈ [rows, count],
        (∀ column ∈ statement.columns, column.relation = some sourceName →
          column.name ∈ kind.resource.source.columnNames) ∧
        (∀ text, .string (some text) ∈ statement.compile.values → '\x00' ∉ text.toList) ∧
        ∃ arguments, Sql.arguments statement.compile.values = .ok arguments ∧
          arguments.length = statement.compile.values.length := by
  obtain ⟨rows, count, hlisting, hrows, hcount⟩ := kind.sound_listing hlimits
    (Policy.admits_ofPairs hlimits pairs)
  refine ⟨rows, count, hlisting, fun statement hstatement => ?_⟩
  have hsound : Sound kind.resource.source.columnNames statement := by
    rcases List.mem_cons.mp hstatement with rfl | hlast
    · exact hrows
    · rw [List.mem_singleton.mp hlast]
      exact hcount
  exact ⟨hsound.columns, fun _ => hsound.nul_notMem, hsound.exists_arguments⟩

/-- A request with a pattern, a sort and too long a page. -/
theorem listing_of_order_pairs :
    PageLimits.Valid ⟨10, 100⟩ ∧
      ∃ rows count, salesOrders.listing
          (Intake.ofPairs ⟨salesOrderRules.allow, ⟨10, 100⟩⟩
            [("customer-name:ilike", "50%"), ("sort:number", "desc"), ("limit", "500")]).params =
          .ok (rows, count) ∧
        (∀ column ∈ rows.columns, column.relation = some sourceName →
          column.name ∈ salesOrders.source.columnNames) ∧
        ∃ arguments, Sql.arguments rows.compile.values = .ok arguments ∧
          arguments.length = rows.compile.values.length := by
  have hlimits : PageLimits.Valid ⟨10, 100⟩ := ⟨by decide, by decide, by decide⟩
  obtain ⟨rows, count, hlisting, hsound⟩ := listing_of_pairs .salesOrder hlimits
    [("customer-name:ilike", "50%"), ("sort:number", "desc"), ("limit", "500")]
  obtain ⟨hcolumns, _, harguments⟩ := hsound rows List.mem_cons_self
  exact ⟨hlimits, rows, count, hlisting, hcolumns, harguments⟩

end Kind

end Daybook.Resource

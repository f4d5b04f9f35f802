import Daybook.Proofs.Grouping.Stream
import Daybook.Service.Database
import Daybook.Service.Run

/-!
# Documents from the database

A query of rows gives all documents of its rows or none: one row that cannot be read counts as much
as a refusal, wherever it stands.
-/

namespace Daybook.Service.Run

variable {α β : Type}

/-! ## Runs that go on

What is left of a run when it goes on: the calls that were sent stay sent, and only a value is ever
passed on.
-/

theorem pure_eq (a : α) : (pure a : Run α) = { outcome := .done a } := rfl

theorem pure_bind (a : α) (next : α → Run β) : (pure a : Run α) >>= next = next a := rfl

@[simp] theorem bind_done (sent : List Sql.Call) (a : α) (next : α → Run β) :
    ({ sent, outcome := .done a } : Run α) >>= next =
      { sent := sent ++ (next a).sent, outcome := (next a).outcome } := rfl

@[simp] theorem map_done (sent : List Sql.Call) (a : α) (f : α → β) :
    f <$> ({ sent, outcome := .done a } : Run α) = { sent, outcome := .done (f a) } := by
  show ({ sent := sent ++ [], outcome := _ } : Run β) = _
  rw [List.append_nil]
  rfl

@[simp] theorem map_failed (sent : List Sql.Call) (failure : Failure) (f : α → β) :
    f <$> ({ sent, outcome := .failed failure } : Run α) =
      { sent, outcome := .failed failure } := rfl

@[simp] theorem underDeadline_done (sent : List Sql.Call) (a : α) :
    ({ sent, outcome := .done a } : Run α).underDeadline = { sent, outcome := .done a } := rfl

end Daybook.Service.Run

namespace Daybook.Service

open Document (Record)

/-! ## Documents of rows -/

namespace Outcome

variable {ε α : Type}

def IsFailed (outcome : Outcome ε α) : Prop := ∃ cause, outcome = .failed cause

theorem not_isFailed_done (value : α) : ¬(done value : Outcome ε α).IsFailed := by
  rintro ⟨_, ⟨⟩⟩

theorem not_isFailed_pending : ¬(pending : Outcome ε α).IsFailed := by
  rintro ⟨_, ⟨⟩⟩

end Outcome

/-- There are no documents to be had: the query of the rows is refused, or one of the rows cannot be
read. -/
def RowsFail (resource : Resource) (rows : Outcome String (List Record)) : Prop :=
  rows.IsFailed ∨ ∃ records, rows = .done records ∧
    ∃ record ∈ records, ∃ fault, resource.read record = .error fault

/-- What becomes of the documents, by what became of the rows. -/
inductive Fetch (resource : Resource) :
    Outcome String (List Record) → Outcome Failure (List resource.Out) → Prop
  | refused (cause : String) : Fetch resource (.failed cause) (.failed (.database cause))
  | unreadable {records : List Record}
      (h : ∃ record ∈ records, ∃ fault, resource.read record = .error fault) (column : String) :
      Fetch resource (.done records) (.failed (.database column))
  | silent : Fetch resource .pending .pending
  | read {records : List Record} {rows : List resource.Row}
      (h : records.map resource.read = rows.map .ok) :
      Fetch resource (.done records) (.done (resource.shape.group rows))

variable {resource : Resource}

theorem not_rowsFail_pending : ¬RowsFail resource .pending := by
  rintro (hfailed | ⟨_, ⟨⟩, _⟩)
  exact Outcome.not_isFailed_pending hfailed

theorem not_rowsFail_of_read {records : List Record} {rows : List resource.Row}
    (h : records.map resource.read = rows.map .ok) : ¬RowsFail resource (.done records) := by
  rintro (hfailed | ⟨_, ⟨⟩, record, hrecord, fault, hfault⟩)
  · exact Outcome.not_isFailed_done records hfailed
  have hmem : resource.read record ∈ rows.map .ok := h ▸ List.mem_map_of_mem hrecord
  obtain ⟨row, _, hrow⟩ := List.mem_map.mp hmem
  rw [hfault] at hrow
  cases hrow

theorem not_rowsFail_nil : ¬RowsFail resource (.done []) :=
  not_rowsFail_of_read (show [].map resource.read = [].map .ok from rfl)

-- Rows that were read before the first one that cannot be read make no difference.
theorem fetch_done (resource : Resource) (records : List Record) :
    ∃ outcome, Run.ofExcept (resource.shape.collect (records.map fun record =>
        (resource.read record).mapError fun fault => Failure.database fault.column)) =
          { outcome } ∧
      Fetch resource (.done records) outcome := by
  have hmap : (records.map fun record =>
      (resource.read record).mapError fun fault => Failure.database fault.column) =
      (records.map resource.read).map fun result =>
        result.mapError fun fault => Failure.database fault.column := by
    rw [List.map_map]
    rfl
  rw [hmap]
  rcases eq_map_ok_or_error (records.map resource.read) with
    ⟨rows, hrows⟩ | ⟨rows, fault, later, hrows⟩
  · refine ⟨_, ?_, .read hrows⟩
    rw [hrows, List.map_map]
    exact congrArg Run.ofExcept (resource.shape.collect_rows rows)
  · have hbad : ∃ record ∈ records, ∃ fault, resource.read record = .error fault := by
      obtain ⟨record, hrecord, hfault⟩ := List.mem_map.mp
        (hrows ▸ List.mem_append_right _ List.mem_cons_self :
          Except.error fault ∈ records.map resource.read)
      exact ⟨record, hrecord, fault, hfault⟩
    refine ⟨_, ?_, .unreadable hbad fault.column⟩
    rw [hrows, List.map_append, List.map_cons, List.map_map]
    exact congrArg Run.ofExcept (resource.shape.collect_error rows _ _)

theorem send_of_call {α : Type} {statement : Sql.Compiled} {call : Sql.Call}
    (h : statement.call = .ok call) (answer : Sql.Call → Outcome String α) :
    Database.send statement answer =
      { sent := [call], outcome := (answer call).mapCause .database } := by
  rw [Database.send, h]

/-- Fetching documents sends one call. -/
theorem fetch_documents {query : Sql.Select} {call : Sql.Call}
    (h : query.compile.call = .ok call) (database : Database) (resource : Resource) :
    ∃ outcome, database.documents resource query = { sent := [call], outcome } ∧
      Fetch resource (database.rows call) outcome := by
  rw [Database.documents, send_of_call h]
  cases database.rows call with
  | failed cause => exact ⟨_, rfl, .refused cause⟩
  | pending => exact ⟨_, rfl, .silent⟩
  | done records =>
    obtain ⟨outcome, hrun, hfetch⟩ := fetch_done resource records
    refine ⟨outcome, ?_, hfetch⟩
    simp only [Outcome.mapCause, Run.bind_done, hrun, List.append_nil]

end Daybook.Service

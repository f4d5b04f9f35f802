import Daybook.Grouping.Stream
import Daybook.Proofs.Except
import Daybook.Proofs.Grouping.Iteration

/-!
# Streams give all or nothing

A stream of rows without an error gives the documents that a cursor over the rows gives.  With an
error it gives the documents that were complete by then and the error, and collecting it gives the
error alone.
-/

namespace Daybook.Grouping.Shape

universe u v w x y

variable {Row : Type u} {Key : Type v} {State : Type w} {Out : Type x} {Err : Type y} [BEq Key]

-- A row gives at most one document, and the stream has then drawn it, too.
theorem yieldsFrom_cons (shape : Shape Row Key State Out) (grouper : Grouper Key State)
    (pulled : Nat) (row : Row) (items : List (Except Err Row)) :
    shape.yieldsFrom grouper pulled (.ok row :: items) =
      ((shape.push grouper row).1.toList.map fun out => ⟨.ok out, pulled + 1⟩) ++
        shape.yieldsFrom (shape.push grouper row).2 (pulled + 1) items := rfl

-- The induction is on the rows, over all groupers at once, since each push leaves another one.
theorem yieldsFrom_rows (shape : Shape Row Key State Out) (grouper : Grouper Key State)
    (pulled : Nat) (rows : List Row) :
    (shape.yieldsFrom grouper pulled (rows.map .ok : List (Except Err Row))).map Yield.item =
      (shape.groupFrom grouper rows).map .ok := by
  induction rows generalizing grouper pulled with
  | nil =>
    rw [List.map_nil, yieldsFrom, groupFrom, List.map_map]
    rfl
  | cons row rows ih =>
    rw [List.map_cons, yieldsFrom_cons, List.map_append, ih, groupFrom_cons, List.map_append,
      List.map_map]
    rfl

-- What comes before the error is what the rows complete, and nothing is read after it.
theorem exists_yieldsFrom_error (shape : Shape Row Key State Out) (grouper : Grouper Key State)
    (pulled : Nat) (rows : List Row) (err : Err) (later : List (Except Err Row)) :
    ∃ before : List (Yield Err Out),
      shape.yieldsFrom grouper pulled (rows.map .ok ++ .error err :: later) =
        before ++ [⟨.error err, pulled + rows.length + 1⟩] ∧
      before.map Yield.item = (shape.run grouper (rows.map .push)).reduceOption.map .ok := by
  induction rows generalizing grouper pulled with
  | nil => exact ⟨[], rfl, rfl⟩
  | cons row rows ih =>
    obtain ⟨before, hyields, hitems⟩ := ih (shape.push grouper row).2 (pulled + 1)
    have hpulled : pulled + 1 + rows.length + 1 = pulled + (row :: rows).length + 1 := by
      rw [List.length_cons]
      omega
    refine ⟨(shape.push grouper row).1.toList.map (fun out => ⟨.ok out, pulled + 1⟩) ++ before,
      ?_, ?_⟩
    · rw [List.map_cons, List.cons_append, yieldsFrom_cons, hyields, hpulled, List.append_assoc]
    · rw [List.map_append, hitems, List.map_cons, run_push_cons]
      cases (shape.push grouper row).1 <;> rfl

/-- Collecting stops at the first fault that the stream gives. -/
theorem collect_eq_mapM (shape : Shape Row Key State Out) (items : List (Except Err Row)) :
    shape.collect items = ((shape.yields items).map Yield.item).mapM id := by
  rw [List.mapM_map]
  rfl

/-- Without faults all documents are collected. -/
theorem collect_rows (shape : Shape Row Key State Out) (rows : List Row) :
    shape.collect (rows.map .ok : List (Except Err Row)) = .ok (shape.group rows) := by
  rw [collect_eq_mapM, yields, yieldsFrom_rows, mapM_eq_ok_iff, List.forall₂_map_left_iff]
  exact List.forall₂_same.mpr fun _ _ => rfl

-- What was complete when the error came is given up.
theorem collect_error (shape : Shape Row Key State Out) (rows : List Row) (err : Err)
    (later : List (Except Err Row)) :
    shape.collect (rows.map .ok ++ .error err :: later) = .error err := by
  obtain ⟨before, hyields, hitems⟩ := shape.exists_yieldsFrom_error {} 0 rows err later
  rw [collect_eq_mapM, yields, hyields, List.map_append, hitems, List.map_singleton, mapM_id_error]

/-! ## Documents that are complete before the end -/

theorem isSome_current_push (shape : Shape Row Key State Out) (grouper : Grouper Key State)
    (row : Row) : (shape.push grouper row).2.current.isSome := by
  unfold push
  split
  · split <;> rfl
  · rfl

-- A grouper that is filling a document gives back one more when the rows are over.
theorem exists_groupFrom_eq (shape : Shape Row Key State Out) {grouper : Grouper Key State}
    (h : grouper.current.isSome) (rows : List Row) :
    ∃ last, shape.groupFrom grouper rows =
      (shape.run grouper (rows.map .push)).reduceOption ++ [last] := by
  induction rows generalizing grouper with
  | nil =>
    obtain ⟨⟨key, state⟩, hcurrent⟩ := Option.isSome_iff_exists.mp h
    refine ⟨shape.close state, ?_⟩
    rw [groupFrom, finish, hcurrent]
    rfl
  | cons row rows ih =>
    obtain ⟨last, hlast⟩ := ih (shape.isSome_current_push grouper row)
    refine ⟨last, ?_⟩
    rw [groupFrom_cons, hlast, List.map_cons, run_push_cons]
    cases (shape.push grouper row).1 <;> rfl

/-- Without a finish all documents are given but the last. -/
theorem reduceOption_run_eq_dropLast (shape : Shape Row Key State Out) (rows : List Row) :
    (shape.run {} (rows.map .push)).reduceOption = (shape.group rows).dropLast := by
  cases rows with
  | nil => rfl
  | cons row rows =>
    have hfilling : (⟨some (shape.key row, shape.begin row)⟩ : Grouper Key State).current.isSome :=
      rfl
    obtain ⟨last, hlast⟩ := shape.exists_groupFrom_eq hfilling rows
    rw [group_cons, hlast, List.dropLast_concat]
    rfl

/-- Over rows without an error, a stream gives what a cursor over the rows gives, and collecting it
gives all of that.  Otherwise it gives the documents of all runs before the first error but the last
one, which is not over, then the error, and reads nothing after it.  Collecting it gives the error
alone. -/
theorem stream_of_items (shape : Shape Row Key State Out) (items : List (Except Err Row)) :
    (∃ (rows : List Row) (documents : List Out),
      items = rows.map .ok ∧
      shape.Iterates rows documents ∧
      documents.map some = (shape.runsByFirst rows).map shape.runDocument? ∧
      (shape.yields items).map Yield.item = documents.map .ok ∧
      shape.collect items = .ok documents) ∨
    ∃ (rows : List Row) (err : Err) (later : List (Except Err Row)) (documents : List Out)
      (before : List (Yield Err Out)),
      items = rows.map .ok ++ .error err :: later ∧
      documents.map some = (shape.runsByFirst rows).dropLast.map shape.runDocument? ∧
      before.map Yield.item = documents.map .ok ∧
      shape.yields items = before ++ [⟨.error err, rows.length + 1⟩] ∧
      shape.collect items = .error err := by
  rcases eq_map_ok_or_error items with ⟨rows, rfl⟩ | ⟨rows, err, later, rfl⟩
  · exact .inl ⟨rows, shape.group rows, rfl, shape.iterates_group rows,
      shape.group_map_some_runsByFirst rows, shape.yieldsFrom_rows {} 0 rows,
      shape.collect_rows rows⟩
  · obtain ⟨before, hyields, hitems⟩ := shape.exists_yieldsFrom_error {} 0 rows err later
    rw [reduceOption_run_eq_dropLast] at hitems
    rw [Nat.zero_add] at hyields
    refine .inr ⟨rows, err, later, (shape.group rows).dropLast, before, rfl, ?_, hitems, hyields,
      shape.collect_error rows err later⟩
    rw [List.map_dropLast, group_map_some_runsByFirst, ← List.map_dropLast]

example : ((treeShape .adjacent .adjacent).yields
    [.ok (⟨1, some 10, none⟩ : TreeRow Nat), .ok ⟨2, none, none⟩, .error "lost",
      .ok ⟨3, none, none⟩]) = [⟨.ok ⟨1, [⟨10, []⟩]⟩, 2⟩, ⟨.error "lost", 3⟩] := rfl

end Daybook.Grouping.Shape

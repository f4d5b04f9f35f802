import Daybook.Proofs.Grouping.Stream

/-!
# How far a source is read

A document is given when the first row after its run has been seen, or the end of the source.  So a
cursor is always one row ahead of the documents that it gave, up to the last one, and the end of its
source is found once.  A stream reads as far as a cursor does.
-/

namespace Daybook.Grouping

universe u v w x y

variable {Row : Type u} {Key : Type v} {State : Type w} {Out : Type x} {Err : Type y}

namespace Source

/-- Rows of which `count` are drawn, where `before` others came before them. -/
def drawn (before : Nat) (rows : List Row) (count : Nat) : Source Row where
  rest := rows.drop count
  pulled := before + count

/-- Rows that are all drawn and asked for once more, where `before` others came before them. -/
def ended (before : Nat) (rows : List Row) : Source Row where
  rest := []
  pulled := before + rows.length
  refused := 1

theorem drawn_append (before count : Nat) (front rows : List Row) :
    drawn before (front ++ rows) (front.length + count) =
      drawn (before + front.length) rows count := by
  rw [drawn, List.drop_length_add_append, ← Nat.add_assoc, drawn]

theorem ended_append (before : Nat) (front rows : List Row) :
    ended before (front ++ rows) = ended (before + front.length) rows := by
  rw [ended, List.length_append, ← Nat.add_assoc, ended]

end Source

namespace Shape

variable [BEq Key]

def afterCalls (shape : Shape Row Key State Out) (cursor : Cursor Row Key State) :
    Nat → Cursor Row Key State
  | 0 => cursor
  | calls + 1 => shape.afterCalls (shape.next cursor).2 calls

/-- What a call gives on a cursor over these rows after some others, and the cursor it leaves. -/
def call (shape : Shape Row Key State Out) (rows : List Row) (earlier : Nat) :
    Option Out × Cursor Row Key State :=
  shape.next (shape.afterCalls (shape.cursor rows) earlier)

/-! ## What a call gives -/

/-- The next call gives what is left after the earlier ones. -/
theorem next_afterCalls_fst (shape : Shape Row Key State Out) (cursor : Cursor Row Key State)
    (calls : Nat) :
    (shape.next (shape.afterCalls cursor calls)).1 = (shape.remaining cursor)[calls]? := by
  induction calls generalizing cursor with
  | zero => rw [afterCalls, (shape.remaining_next cursor).1, List.head?_eq_getElem?]
  | succ calls ih => rw [afterCalls, ih, (shape.remaining_next cursor).2, List.getElem?_tail]

theorem next_of_exhausted (shape : Shape Row Key State Out) {cursor : Cursor Row Key State}
    (h : cursor.exhausted) : shape.next cursor = (none, cursor) := by
  rw [next, if_pos h]

theorem afterCalls_of_exhausted (shape : Shape Row Key State Out) {cursor : Cursor Row Key State}
    (h : cursor.exhausted) (calls : Nat) : shape.afterCalls cursor calls = cursor := by
  induction calls with
  | zero => rfl
  | succ calls ih => rw [afterCalls, shape.next_of_exhausted h, ih]

/-! ## How far a call reads -/

/-- The cursor whose document has one row, the last of those that were drawn, where `before` rows
were drawn for the documents before it. -/
def oneAhead (shape : Shape Row Key State Out) (before : Nat) (first : Row) (rest : List Row) :
    Cursor Row Key State where
  source := { rest, pulled := before + 1 }
  grouper := ⟨some (shape.key first, shape.begin first)⟩

-- The end of the rows ends the document.
theorem draw_to_end {shape : Shape Row Key State Out} {first : Row} {rows : List Row}
    (h : ∀ row ∈ rows, shape.sameKey first row) (state : State) (pulled refused : Nat) :
    (shape.draw ⟨some (shape.key first, state)⟩ pulled refused rows).2 =
      { source := { rest := [], pulled := pulled + rows.length, refused := refused + 1 }
        exhausted := true } := by
  induction rows generalizing state pulled with
  | nil => rfl
  | cons row rows ih =>
    obtain ⟨hrow, hrows⟩ := List.forall_mem_cons.mp h
    rw [draw, push_of_sameKey rfl hrow, List.length_cons, Nat.add_comm rows.length,
      ← Nat.add_assoc]
    exact ih hrows _ _

-- The first row of another key ends the document, and starts the next one.
theorem draw_to_next {shape : Shape Row Key State Out} {first other : Row} {rows later : List Row}
    (h : ∀ row ∈ rows, shape.sameKey first row) (hother : ¬shape.sameKey first other)
    (state : State) (pulled : Nat) :
    (shape.draw ⟨some (shape.key first, state)⟩ pulled 0 (rows ++ other :: later)).2 =
      shape.oneAhead (pulled + rows.length) other later := by
  induction rows generalizing state pulled with
  | nil =>
    rw [List.nil_append, draw, push_of_not_sameKey rfl hother]
    rfl
  | cons row rows ih =>
    obtain ⟨hrow, hrows⟩ := List.forall_mem_cons.mp h
    rw [List.cons_append, draw, push_of_sameKey rfl hrow, List.length_cons,
      Nat.add_comm rows.length, ← Nat.add_assoc]
    exact ih hrows _ _

/-- The last run is given when the source has no more rows. -/
theorem next_oneAhead_of_last {shape : Shape Row Key State Out} {first : Row} {rows : List Row}
    (h : ∀ row ∈ rows, shape.sameKey first row) (before : Nat) :
    (shape.next (shape.oneAhead before first rows)).2 =
      { source := .ended before (first :: rows), exhausted := true } := by
  rw [Source.ended, List.length_cons, Nat.add_comm rows.length, ← Nat.add_assoc]
  exact draw_to_end h _ _ _

/-- Any other run is given when one row of the next is drawn. -/
theorem next_oneAhead_of_more {shape : Shape Row Key State Out} {first other : Row}
    {rows later : List Row} (h : ∀ row ∈ rows, shape.sameKey first row)
    (hother : ¬shape.sameKey first other) (before : Nat) :
    (shape.next (shape.oneAhead before first (rows ++ other :: later))).2 =
      shape.oneAhead (before + (first :: rows).length) other later := by
  rw [List.length_cons, Nat.add_comm rows.length, ← Nat.add_assoc]
  exact draw_to_next h hother _ _

/-! ## Run by run -/

def rowsOf (runs : List (List Row)) (count : Nat) : Nat := (runs.take count).flatten.length

omit [BEq Key] in
theorem rowsOf_cons (run : List Row) (runs : List (List Row)) (count : Nat) :
    rowsOf (run :: runs) (count + 1) = run.length + rowsOf runs count := by
  rw [rowsOf, List.take_succ_cons, List.flatten_cons, List.length_append, rowsOf]

theorem length_runsByFirst_pos (shape : Shape Row Key State Out) (first : Row) (rows : List Row) :
    0 < (shape.runsByFirst (first :: rows)).length := by
  rw [runsByFirst, List.length_cons]
  exact Nat.succ_pos _

-- The induction is on the calls, over all rows at once, since each call leaves fewer of them.
theorem source_next_oneAhead (shape : Shape Row Key State Out) (calls before : Nat) (first : Row)
    (rows : List Row) :
    (shape.next (shape.afterCalls (shape.oneAhead before first rows) calls)).2.source =
      if calls + 1 < (shape.runsByFirst (first :: rows)).length then
        .drawn before (first :: rows) (rowsOf (shape.runsByFirst (first :: rows)) (calls + 1) + 1)
      else .ended before (first :: rows) := by
  induction calls generalizing before first rows with
  | zero =>
    rw [afterCalls]
    rcases shape.last_or_more first rows with hall | ⟨same, other, later, rfl, hsame, hother⟩
    · rw [next_oneAhead_of_last hall, runsByFirst_of_last hall]
      rfl
    · have hmore : 0 + 1 < ((first :: same) :: shape.runsByFirst (other :: later)).length :=
        Nat.succ_lt_succ (shape.length_runsByFirst_pos other later)
      rw [next_oneAhead_of_more hsame hother, runsByFirst_of_more hsame hother, if_pos hmore,
        rowsOf_cons, ← List.cons_append, Nat.add_assoc (first :: same).length,
        Source.drawn_append]
      rfl
  | succ calls ih =>
    rw [afterCalls]
    -- After the last run nothing is drawn any more; otherwise one run less is left to the others.
    rcases shape.last_or_more first rows with hall | ⟨same, other, later, rfl, hsame, hother⟩
    · rw [next_oneAhead_of_last hall, runsByFirst_of_last hall, afterCalls_of_exhausted shape rfl,
        next_of_exhausted shape rfl, if_neg (by simp)]
    · have hcount : calls + 1 + 1 < ((first :: same) :: shape.runsByFirst (other :: later)).length ↔
          calls + 1 < (shape.runsByFirst (other :: later)).length := Nat.add_lt_add_iff_right
      rw [next_oneAhead_of_more hsame hother, runsByFirst_of_more hsame hother, ih, rowsOf_cons,
        ← List.cons_append, Nat.add_assoc (first :: same).length, Source.drawn_append,
        Source.ended_append]
      exact (if_congr hcount rfl rfl).symm

-- The first row of all is drawn by the call that gives its document.
theorem call_cons (shape : Shape Row Key State Out) (first : Row) (rows : List Row)
    (earlier : Nat) :
    shape.call (first :: rows) earlier =
      shape.next (shape.afterCalls (shape.oneAhead 0 first rows) earlier) := by
  cases earlier <;> rfl

theorem source_call_nil (shape : Shape Row Key State Out) (earlier : Nat) :
    (shape.call [] earlier).2.source = { rest := [], pulled := 0, refused := 1 } := by
  cases earlier with
  | zero => rfl
  | succ earlier =>
    have hended : (shape.next (shape.cursor [])).2.exhausted := rfl
    rw [call, afterCalls, afterCalls_of_exhausted shape hended, next_of_exhausted shape hended]
    rfl

/-- After any call, how many rows are drawn is known from the lengths of the runs. -/
theorem source_call (shape : Shape Row Key State Out) (rows : List Row) (earlier : Nat) :
    (shape.call rows earlier).2.source =
      if earlier + 1 < (shape.runsByFirst rows).length then
        .drawn 0 rows (rowsOf (shape.runsByFirst rows) (earlier + 1) + 1)
      else .ended 0 rows := by
  cases rows with
  | nil =>
    rw [source_call_nil, runsByFirst]
    exact (if_neg (Nat.not_lt_zero _)).symm
  | cons first rows => rw [call_cons, source_next_oneAhead]

/-! ## Nothing after the end -/

/-- A cursor whose source had no more rows asks it for none. -/
def Fused (cursor : Cursor Row Key State) : Prop :=
  0 < cursor.source.refused → cursor.exhausted

theorem fused_draw (shape : Shape Row Key State Out) (grouper : Grouper Key State) (pulled : Nat)
    (rows : List Row) : Fused (shape.draw grouper pulled 0 rows).2 := by
  induction rows generalizing grouper pulled with
  | nil => exact fun _ => rfl
  | cons row rows ih =>
    rw [draw]
    split
    · exact fun hrefused => absurd hrefused (Nat.lt_irrefl 0)
    · exact ih _ _

/-- A call keeps a cursor from asking a source again that had no more rows. -/
theorem fused_next (shape : Shape Row Key State Out) {cursor : Cursor Row Key State}
    (h : Fused cursor) : Fused (shape.next cursor).2 := by
  by_cases hexhausted : cursor.exhausted
  · rwa [shape.next_of_exhausted hexhausted]
  · have hrefused : cursor.source.refused = 0 := Nat.eq_zero_of_not_pos (mt h hexhausted)
    rw [next, if_neg hexhausted, hrefused]
    exact shape.fused_draw _ _ _

theorem fused_afterCalls (shape : Shape Row Key State Out) {cursor : Cursor Row Key State}
    (h : Fused cursor) (calls : Nat) : Fused (shape.afterCalls cursor calls) := by
  induction calls generalizing cursor with
  | zero => exact h
  | succ calls ih => exact ih (shape.fused_next h)

/-! ## Streams beside cursors -/

/-- What a stream gives of the rows that a cursor has left. -/
def yieldsLeft (shape : Shape Row Key State Out) (cursor : Cursor Row Key State) :
    List (Yield Err Out) :=
  if cursor.exhausted then []
  else shape.yieldsFrom cursor.grouper cursor.source.pulled (cursor.source.rest.map .ok)

theorem yieldsLeft_draw (shape : Shape Row Key State Out) (grouper : Grouper Key State)
    (pulled refused : Nat) (rows : List Row) :
    (shape.yieldsFrom grouper pulled (rows.map .ok) : List (Yield Err Out)).head? =
        (shape.draw grouper pulled refused rows).1.map (fun out =>
          ⟨.ok out, (shape.draw grouper pulled refused rows).2.source.pulled⟩) ∧
      shape.yieldsLeft (shape.draw grouper pulled refused rows).2 =
        (shape.yieldsFrom grouper pulled (rows.map .ok) : List (Yield Err Out)).tail := by
  induction rows generalizing grouper pulled with
  | nil =>
    rw [draw, List.map_nil, yieldsFrom]
    cases (shape.finish grouper).1 <;> exact ⟨rfl, rfl⟩
  | cons row rows ih =>
    rw [draw, List.map_cons, yieldsFrom_cons]
    split
    · rename_i out next hpush
      rw [hpush]
      exact ⟨rfl, rfl⟩
    · rename_i next hpush
      rw [hpush]
      exact ih next (pulled + 1)

/-- A call gives the first of what a stream over the same rows gives, and leaves the others. -/
theorem yieldsLeft_next (shape : Shape Row Key State Out) (cursor : Cursor Row Key State) :
    (shape.yieldsLeft cursor : List (Yield Err Out)).head? =
        (shape.next cursor).1.map (fun out => ⟨.ok out, (shape.next cursor).2.source.pulled⟩) ∧
      shape.yieldsLeft (shape.next cursor).2 =
        (shape.yieldsLeft cursor : List (Yield Err Out)).tail := by
  by_cases hexhausted : cursor.exhausted
  · rw [shape.next_of_exhausted hexhausted, yieldsLeft, if_pos hexhausted]
    exact ⟨rfl, rfl⟩
  · rw [yieldsLeft, if_neg hexhausted, next, if_neg hexhausted]
    exact shape.yieldsLeft_draw _ _ _ _

-- A stream gives what the calls give, and has read as much by then.
theorem yieldsLeft_getElem? (shape : Shape Row Key State Out) (cursor : Cursor Row Key State)
    (calls : Nat) :
    (shape.yieldsLeft cursor : List (Yield Err Out))[calls]? =
      (shape.next (shape.afterCalls cursor calls)).1.map fun out =>
        ⟨.ok out, (shape.next (shape.afterCalls cursor calls)).2.source.pulled⟩ := by
  induction calls generalizing cursor with
  | zero => rw [afterCalls, ← (shape.yieldsLeft_next cursor).1, List.head?_eq_getElem?]
  | succ calls ih => rw [afterCalls, ← ih, (shape.yieldsLeft_next cursor).2, List.getElem?_tail]

/-- The calls of a cursor give the documents of the runs one by one.  When a document is given, one
row is drawn beyond the runs up to its own, or all rows if its run is the last.  Later calls give
nothing, and a source that had no more rows is left alone.  A stream gives the same documents, and
has read as many rows with each of them.  The runs are cut by their first keys; for keys that are
compared by a symmetric and transitive relation they are the maximal runs of equal keys. -/
theorem calls_of_runs (Err : Type y) (shape : Shape Row Key State Out) (rows : List Row) :
    ∃ documents : List Out,
      documents.map some = (shape.runsByFirst rows).map shape.runDocument? ∧
      (∀ earlier, (shape.call rows earlier).1 = documents[earlier]?) ∧
      (∀ earlier, (shape.call rows earlier).2.source =
        if earlier + 1 < (shape.runsByFirst rows).length then
          { rest := rows.drop (rowsOf (shape.runsByFirst rows) (earlier + 1) + 1)
            pulled := rowsOf (shape.runsByFirst rows) (earlier + 1) + 1 }
        else { rest := [], pulled := rows.length, refused := 1 }) ∧
      (∀ earlier, 0 < (shape.afterCalls (shape.cursor rows) earlier).source.refused →
        shape.call rows earlier = (none, shape.afterCalls (shape.cursor rows) earlier)) ∧
      (∀ earlier, (shape.yields (rows.map .ok))[earlier]? =
        documents[earlier]?.map fun document =>
          (⟨.ok document, (shape.call rows earlier).2.source.pulled⟩ : Yield Err Out)) ∧
      ∀ [PartialEquivBEq Key], shape.runsByFirst rows = shape.runs rows := by
  have hgiven (earlier : Nat) : (shape.call rows earlier).1 = (shape.group rows)[earlier]? :=
    shape.next_afterCalls_fst (shape.cursor rows) earlier
  refine ⟨shape.group rows, shape.group_map_some_runsByFirst rows, hgiven, fun earlier => ?_,
    fun earlier hrefused => ?_, fun earlier => ?_, shape.runsByFirst_eq_runs rows⟩
  · rw [source_call, Source.drawn, Source.ended, Nat.zero_add, Nat.zero_add]
  · have hfused : Fused (shape.cursor rows) := fun hnever => absurd hnever (Nat.lt_irrefl 0)
    exact shape.next_of_exhausted (shape.fused_afterCalls hfused earlier hrefused)
  · rw [← hgiven]
    exact shape.yieldsLeft_getElem? (shape.cursor rows) earlier

/-- Of runs of two rows, one and one, each document but the last is given one row late, and the end
is found by the call that gives the last one. -/
theorem calls_of_tree_rows :
    let shape := treeShape .adjacent .adjacent
    let rows : List (TreeRow Nat) := [⟨1, some 10, none⟩, ⟨1, none, none⟩, ⟨2, none, none⟩,
      ⟨1, some 10, some 7⟩]
    shape.runsByFirst rows = [rows.take 2, [⟨2, none, none⟩], [⟨1, some 10, some 7⟩]] ∧
      (List.range 5).map (fun earlier => (shape.call rows earlier).1) =
        [some ⟨1, [⟨10, []⟩]⟩, some ⟨2, []⟩, some ⟨1, [⟨10, [7]⟩]⟩, none, none] ∧
      (List.range 5).map (fun earlier => (shape.call rows earlier).2.source.pulled) =
        [3, 4, 4, 4, 4] ∧
      0 < (shape.afterCalls (shape.cursor rows) 3).source.refused ∧
      shape.call rows 3 = (none, shape.afterCalls (shape.cursor rows) 3) := by
  intro shape rows
  obtain ⟨_, _, _, _, hended, _, hruns⟩ := calls_of_runs String shape rows
  exact ⟨hruns.trans (by decide), by decide, by decide, by decide, hended 3 (by decide)⟩

end Shape

end Daybook.Grouping

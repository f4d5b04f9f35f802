import Daybook.Proofs.Grouping.Contiguity
import Daybook.Sql.Statement
import Mathlib.Data.List.Nodup
import Mathlib.Order.Lattice

/-!
# The order of rows

Rows that a database has ordered by a list of terms, whatever it takes for the order of the values
in each column.  Rows that agree on the leading terms hold everything between them to these.
-/

namespace Daybook.Sql

variable {V : Type}

/-- What a row holds in the columns that a query reads from. -/
abbrev Tuple (V : Type) := Column → V

/-- How a database orders the values of each column, NULL among them.  Different values may come
out as equal. -/
structure Collation (V : Type) where
  le : Column → V → V → Prop
  total : ∀ column a b, le column a b ∨ le column b a
  trans : ∀ column a b c, le column a b → le column b c → le column a c

def Collation.ofKey {K : Type} [LinearOrder K] (key : V → K) : Collation V where
  le _ a b := key a ≤ key b
  total _ a b := le_total (key a) (key b)
  trans _ _ _ _ := le_trans

instance {K : Type} [LinearOrder K] (key : V → K) (column : Column) (a b : V) :
    Decidable ((Collation.ofKey key).le column a b) :=
  inferInstanceAs (Decidable (key a ≤ key b))

-- The first row may stand before the second as far as the term goes.
def OrderTerm.le (collation : Collation V) (term : OrderTerm) (row other : Tuple V) : Prop :=
  match term.direction with
  | .asc => collation.le term.column (row term.column) (other term.column)
  | .desc => collation.le term.column (other term.column) (row term.column)

/-- A term looks at its own column only. -/
theorem OrderTerm.le_congr_left {collation : Collation V} {term : OrderTerm}
    {row same other : Tuple V} (h : row term.column = same term.column) :
    term.le collation row other ↔ term.le collation same other := by
  unfold OrderTerm.le
  rw [h]

theorem OrderTerm.le_congr_right {collation : Collation V} {term : OrderTerm}
    {row other same : Tuple V} (h : other term.column = same term.column) :
    term.le collation row other ↔ term.le collation row same := by
  unfold OrderTerm.le
  rw [h]

/-- Two rows that come before each other agree in the column of the term. -/
theorem OrderTerm.eq_of_le_of_le {collation : Collation V} {term : OrderTerm}
    (hantisymm : ∀ a b, collation.le term.column a b → collation.le term.column b a → a = b)
    {row other : Tuple V} (h : term.le collation row other) (hback : term.le collation other row) :
    row term.column = other term.column := by
  unfold OrderTerm.le at h hback
  cases hdirection : term.direction with
  | asc =>
    rw [hdirection] at h hback
    exact hantisymm _ _ h hback
  | desc =>
    rw [hdirection] at h hback
    exact hantisymm _ _ hback h

/-- The first row may stand before the second: the first term on which they are not tied says so, or
there is none. -/
def mayPrecede (collation : Collation V) : List OrderTerm → Tuple V → Tuple V → Prop
  | [], _, _ => True
  | term :: terms, row, other =>
    term.le collation row other ∧
      (term.le collation other row → mayPrecede collation terms row other)

/-- The rows stand in the order of the terms. -/
def Ordered (collation : Collation V) (terms : List OrderTerm) (rows : List (Tuple V)) : Prop :=
  rows.Pairwise (mayPrecede collation terms)

section Decidable

variable {collation : Collation V} [∀ column a b, Decidable (collation.le column a b)]

instance (term : OrderTerm) (row other : Tuple V) : Decidable (term.le collation row other) :=
  match h : term.direction with
  | .asc => decidable_of_iff (collation.le term.column (row term.column) (other term.column))
      (by rw [OrderTerm.le, h])
  | .desc => decidable_of_iff (collation.le term.column (other term.column) (row term.column))
      (by rw [OrderTerm.le, h])

instance decidableMayPrecede (terms : List OrderTerm) (row other : Tuple V) :
    Decidable (mayPrecede collation terms row other) :=
  match terms with
  | [] => isTrue trivial
  | term :: terms =>
    have := decidableMayPrecede terms row other
    inferInstanceAs (Decidable (term.le collation row other ∧
      (term.le collation other row → mayPrecede collation terms row other)))

instance (terms : List OrderTerm) (rows : List (Tuple V)) :
    Decidable (Ordered collation terms rows) :=
  inferInstanceAs (Decidable (rows.Pairwise (mayPrecede collation terms)))

end Decidable

-- A row between two rows that agree on the leading terms is tied with the first of them.  The
-- induction goes down these terms: a tie on one hands the question on to the next.
theorem ties_of_mayPrecede {collation : Collation V} {terms rest : List OrderTerm}
    {row between last : Tuple V} (hagree : ∀ term ∈ terms, row term.column = last term.column)
    (hbefore : mayPrecede collation (terms ++ rest) row between)
    (hafter : mayPrecede collation (terms ++ rest) between last) :
    ∀ term ∈ terms, term.le collation row between ∧ term.le collation between row := by
  induction terms with
  | nil => simp
  | cons term terms ih =>
    rw [List.cons_append] at hbefore hafter
    obtain ⟨hle, hbeforeRest⟩ := hbefore
    obtain ⟨hleLast, hafterRest⟩ := hafter
    have hsame := hagree term List.mem_cons_self
    have hge : term.le collation between row := (OrderTerm.le_congr_right hsame).mpr hleLast
    have hleBack : term.le collation last between := (OrderTerm.le_congr_left hsame).mp hle
    have hrest := ih (fun other hother => hagree other (List.mem_cons_of_mem term hother))
      (hbeforeRest hge) (hafterRest hleBack)
    intro other hother
    rcases List.mem_cons.mp hother with rfl | hmem
    · exact ⟨hle, hge⟩
    · exact hrest other hmem

-- Rows that agree on a column, and with it on all leading terms, stand together, if different
-- values of that column never come out as equal.
theorem contiguous_of_ordered {collation : Collation V} {terms rest : List OrderTerm}
    {term : OrderTerm} (hterm : term ∈ terms)
    (hantisymm : ∀ a b, collation.le term.column a b → collation.le term.column b a → a = b)
    {rows : List (Tuple V)} (hordered : Ordered collation (terms ++ rest) rows)
    (hagree : ∀ row ∈ rows, ∀ other ∈ rows, row term.column = other term.column →
      ∀ lead ∈ terms, row lead.column = other lead.column) :
    Grouping.Contiguous (rows.map fun row => row term.column) := by
  intro a b hsub
  obtain ⟨found, hfound, hvalues⟩ := List.sublist_map_iff.mp hsub
  obtain ⟨row, later, rfl, hrow, hlater⟩ := List.map_eq_cons_iff.mp hvalues.symm
  obtain ⟨between, lasts, rfl, hbetween, hlasts⟩ := List.map_eq_cons_iff.mp hlater
  obtain ⟨last, _, rfl, hlast, hnone⟩ := List.map_eq_cons_iff.mp hlasts
  obtain rfl := List.map_eq_nil_iff.mp hnone
  have hpairs := List.pairwise_cons.mp (List.Pairwise.sublist hfound hordered)
  have hbefore := hpairs.1 between (by simp)
  have hafter := (List.pairwise_cons.mp hpairs.2).1 last (by simp)
  have hties := ties_of_mayPrecede
    (hagree row (hfound.subset (by simp)) last (hfound.subset (by simp)) (hrow.trans hlast.symm))
    hbefore hafter term hterm
  rw [← hrow, ← hbetween]
  exact OrderTerm.eq_of_le_of_le hantisymm hties.2 hties.1

/-! ## One order only -/

/-- What may come first by all terms may do so by the leading ones. -/
theorem mayPrecede_of_append {collation : Collation V} {terms rest : List OrderTerm}
    {row other : Tuple V} (h : mayPrecede collation (terms ++ rest) row other) :
    mayPrecede collation terms row other := by
  induction terms with
  | nil => trivial
  | cons term terms ih => exact ⟨h.1, fun hback => ih (h.2 hback)⟩

/-- Rows in order by all terms are in order by the leading ones. -/
theorem Ordered.of_append {collation : Collation V} {terms rest : List OrderTerm}
    {rows : List (Tuple V)} (h : Ordered collation (terms ++ rest) rows) :
    Ordered collation terms rows := h.imp mayPrecede_of_append

-- Rows that no two of them agree on some columns can be ordered in one way only, if the terms cover
-- these columns and different values of them never come out as equal.
theorem eq_of_ordered {collation : Collation V} {terms : List OrderTerm} {columns : List Column}
    (hcovered : ∀ column ∈ columns, ∃ term ∈ terms, term.column = column)
    (hantisymm : ∀ column ∈ columns, ∀ a b,
      collation.le column a b → collation.le column b a → a = b)
    {table rows others : List (Tuple V)} (hdistinct : (table.map fun row => columns.map row).Nodup)
    (hperm : rows.Perm table) (hperm' : others.Perm table)
    (hordered : Ordered collation terms rows) (hordered' : Ordered collation terms others) :
    rows = others := by
  refine List.Perm.eq_of_pairwise ?_ hordered hordered' (hperm.trans hperm'.symm)
  intro row other hrow hother hle hback
  apply List.inj_on_of_nodup_map hdistinct (hperm.subset hrow) (hperm'.subset hother)
  apply List.map_congr_left
  intro column hcolumn
  obtain ⟨term, hterm, rfl⟩ := hcovered column hcolumn
  rw [← List.append_nil terms] at hle hback
  obtain ⟨hfirst, hsecond⟩ := ties_of_mayPrecede (fun _ _ => rfl) hle hback term hterm
  exact OrderTerm.eq_of_le_of_le (hantisymm term.column hcolumn) hfirst hsecond

end Daybook.Sql

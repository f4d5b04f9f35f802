import Mathlib.Data.List.Forall2

/-!
# Results of computations that may fail

When a chain of computations, or one computation over a list, has a result.
-/

namespace Daybook

universe u v w

variable {ε : Type u} {α β : Type v} {γ : Type w}

/-- Two steps succeed if the first does and the second does after it. -/
theorem bind_eq_ok_iff {x : Except ε α} {f : α → Except ε β} {b : β} :
    (x >>= f) = .ok b ↔ ∃ a, x = .ok a ∧ f a = .ok b := by
  cases x with
  | error e => simp [bind, Except.bind]
  | ok a => simp [bind, Except.bind]

theorem pure_eq_ok_iff {a b : α} : (pure a : Except ε α) = .ok b ↔ a = b := by
  simp [pure, Except.pure]

-- What the last of a chain of computations gives is what the chain gives.
theorem forall_bind_eq_ok {x : Except ε α} {f : α → Except ε β} {P : β → Prop}
    (h : ∀ a b, f a = .ok b → P b) : ∀ b, (x >>= f) = .ok b → P b := by
  intro b hb
  obtain ⟨a, -, ha⟩ := bind_eq_ok_iff.mp hb
  exact h a b ha

theorem toOption_map (result : Except ε α) (f : α → β) :
    (result.map f).toOption = result.toOption.map f := by
  cases result <;> rfl

/-- A new wording of the fault leaves success alone. -/
theorem mapError_eq_ok_iff {ε' : Type w} {x : Except ε α} {f : ε → ε'} {a : α} :
    x.mapError f = .ok a ↔ x = .ok a := by
  cases x with
  | error e => exact iff_of_false nofun nofun
  | ok b => simp [Except.mapError]

/-- A fault in new words is an old fault in its own words. -/
theorem mapError_eq_error_iff {ε' : Type w} {x : Except ε α} {f : ε → ε'} {fault : ε'} :
    x.mapError f = .error fault ↔ ∃ cause, x = .error cause ∧ f cause = fault := by
  cases x with
  | error e => simp [Except.mapError]
  | ok b => simp [Except.mapError]

-- A computation over a list has a result when it has one for each element.
theorem mapM_eq_ok_iff {f : γ → Except ε β} {cs : List γ} {bs : List β} :
    cs.mapM f = .ok bs ↔ List.Forall₂ (fun c b => f c = .ok b) cs bs := by
  induction cs generalizing bs with
  | nil =>
    rw [List.mapM_nil, pure_eq_ok_iff]
    constructor
    · rintro rfl
      exact .nil
    · rintro ⟨⟩
      rfl
  | cons c cs ih =>
    rw [List.mapM_cons, bind_eq_ok_iff]
    simp only [bind_eq_ok_iff, pure_eq_ok_iff]
    constructor
    · rintro ⟨b, hb, rest, hrest, rfl⟩
      exact .cons hb (ih.mp hrest)
    · rintro (_ | ⟨hb, hrest⟩)
      exact ⟨_, hb, _, ih.mpr hrest, rfl⟩

-- Where each element has its result exactly on a condition, so has the list.
theorem mapM_eq_ok_iff_of_forall {f : γ → Except ε β} {P : γ → Prop} {g : γ → β}
    (h : ∀ c b, f c = .ok b ↔ P c ∧ b = g c) {cs : List γ} {bs : List β} :
    cs.mapM f = .ok bs ↔ (∀ c ∈ cs, P c) ∧ bs = cs.map g := by
  rw [mapM_eq_ok_iff]
  simp only [h]
  induction cs generalizing bs with
  | nil =>
    rw [List.forall₂_nil_left_iff]
    simp
  | cons c cs ih =>
    rw [List.forall₂_cons_left_iff, List.map_cons, List.forall_mem_cons]
    constructor
    · rintro ⟨b, rest, ⟨hc, rfl⟩, hrest, rfl⟩
      obtain ⟨hcs, rfl⟩ := ih.mp hrest
      exact ⟨⟨hc, hcs⟩, rfl⟩
    · rintro ⟨⟨hc, hcs⟩, rfl⟩
      exact ⟨g c, cs.map g, ⟨hc, rfl⟩, ih.mpr ⟨hcs, rfl⟩, rfl⟩

theorem exists_mapM_eq_ok {f : γ → Except ε β} {P : β → Prop} {cs : List γ}
    (h : ∀ c ∈ cs, ∃ b, f c = .ok b ∧ P b) : ∃ bs, cs.mapM f = .ok bs ∧ ∀ b ∈ bs, P b := by
  induction cs with
  | nil => exact ⟨[], rfl, by simp⟩
  | cons c cs ih =>
    obtain ⟨b, hb, hp⟩ := h c List.mem_cons_self
    obtain ⟨bs, hbs, hps⟩ := ih fun c hc => h c (List.mem_cons_of_mem _ hc)
    refine ⟨b :: bs, ?_, List.forall_mem_cons.mpr ⟨hp, hps⟩⟩
    rw [List.mapM_cons, hb, hbs]
    rfl

/-! ## The first fault of a list -/

/-- The first fault of a list is the fault of the whole. -/
theorem mapM_id_error (results : List α) (fault : ε) (later : List (Except ε α)) :
    (results.map Except.ok ++ Except.error fault :: later).mapM id = .error fault := by
  induction results with
  | nil => rfl
  | cons result results ih =>
    rw [List.map_cons, List.cons_append, List.mapM_cons, ih]
    rfl

-- Either all is well or there is a first fault, with only results before it.
theorem eq_map_ok_or_error (items : List (Except ε α)) :
    (∃ results : List α, items = results.map .ok) ∨
      ∃ (results : List α) (fault : ε) (later : List (Except ε α)),
        items = results.map .ok ++ .error fault :: later := by
  induction items with
  | nil => exact .inl ⟨[], rfl⟩
  | cons item items ih =>
    cases item with
    | error fault => exact .inr ⟨[], fault, items, rfl⟩
    | ok result =>
      rcases ih with ⟨results, rfl⟩ | ⟨results, fault, later, rfl⟩
      · exact .inl ⟨result :: results, rfl⟩
      · exact .inr ⟨result :: results, fault, later, rfl⟩

/-- Where there are no faults the computation has a result, and otherwise it fails with the first of
them. -/
inductive FailsFirst : Except ε α → List ε → Prop
  | ok (a : α) : FailsFirst (.ok a) []
  | error (fault : ε) (later : List ε) : FailsFirst (.error fault) (fault :: later)

namespace FailsFirst

variable {x : Except ε α} {faults more : List ε}

/-- What the second step can find comes after what the first one can. -/
theorem bind {f : α → Except ε β} (hx : FailsFirst x faults)
    (hf : ∀ a, x = .ok a → FailsFirst (f a) more) : FailsFirst (x >>= f) (faults ++ more) := by
  cases hx with
  | ok a => exact hf a rfl
  | error fault later => exact .error fault (later ++ more)

theorem map {f : α → β} (hx : FailsFirst x faults) : FailsFirst (x.map f) faults := by
  cases hx with
  | ok a => exact .ok (f a)
  | error fault later => exact .error fault later

theorem bind_pure (hx : FailsFirst x faults) (f : α → β) :
    FailsFirst (x >>= fun a => pure (f a)) faults := by
  cases hx with
  | ok a => exact .ok (f a)
  | error fault later => exact .error fault later

-- The faults of a list are those of its elements, in order.
theorem mapM {f : γ → Except ε β} {faultsOf : γ → List ε} {cs : List γ}
    (h : ∀ c ∈ cs, FailsFirst (f c) (faultsOf c)) :
    FailsFirst (cs.mapM f) (cs.flatMap faultsOf) := by
  induction cs with
  | nil => exact .ok []
  | cons c cs ih =>
    rw [List.mapM_cons, List.flatMap_cons]
    refine bind (h c List.mem_cons_self) fun b _ => ?_
    exact bind_pure (ih fun d hd => h d (List.mem_cons_of_mem c hd)) (b :: ·)

end FailsFirst

/-! ## The first check that finds a fault -/

/-- The fault is one that the first of the checks finds which finds any. -/
inductive FoundFirst (finds : γ → ε → Prop) : List γ → ε → Prop
  | here {check : γ} {checks : List γ} {fault : ε} (h : finds check fault) :
    FoundFirst finds (check :: checks) fault
  | later {check : γ} {checks : List γ} {fault : ε} (hnone : ∀ other, ¬finds check other)
    (h : FoundFirst finds checks fault) : FoundFirst finds (check :: checks) fault

namespace FoundFirst

variable {finds : γ → ε → Prop} {check : γ} {checks : List γ} {fault : ε}

-- What fails as a check does, and goes on as the other checks do.
theorem bind_eq_error_iff {x : Except ε α} {f : α → Except ε β}
    (hx : ∀ other, x = .error other ↔ finds check other)
    (hf : ∀ a, x = .ok a → (f a = .error fault ↔ FoundFirst finds checks fault)) :
    (x >>= f) = .error fault ↔ FoundFirst finds (check :: checks) fault := by
  cases x with
  | error first =>
    have hfirst : finds check first := (hx first).mp rfl
    constructor
    · rintro ⟨⟩
      exact .here hfirst
    · rintro (h | ⟨hnone, -⟩)
      · cases (hx fault).mpr h
        rfl
      · exact absurd hfirst (hnone first)
  | ok a =>
    have hnone : ∀ other, ¬finds check other := by
      intro other h
      cases (hx other).mpr h
    constructor
    · exact fun h => .later hnone ((hf a rfl).mp h)
    · rintro (h | ⟨-, h⟩)
      · exact absurd h (hnone fault)
      · exact (hf a rfl).mpr h

theorem pure_eq_error_iff (a : α) :
    (pure a : Except ε α) = .error fault ↔ FoundFirst finds [] fault :=
  iff_of_false nofun nofun

end FoundFirst

/-! ## Optional results -/

theorem mapM_eq_some_iff {α : Type u} {f : γ → Option α} {cs : List γ} {as : List α} :
    cs.mapM f = some as ↔ cs.map f = as.map some := by
  induction cs generalizing as with
  | nil => cases as <;> simp
  | cons c cs ih =>
    rw [List.mapM_cons]
    simp only [Option.bind_eq_bind, Option.bind_eq_some_iff, Option.pure_def, Option.some.injEq]
    constructor
    · rintro ⟨a, ha, rest, hrest, rfl⟩
      rw [List.map_cons, List.map_cons, ha, ih.mp hrest]
    · intro h
      cases as with
      | nil => cases h
      | cons a as =>
        obtain ⟨ha, hrest⟩ := List.cons.inj h
        exact ⟨a, ha, as, ih.mpr hrest, rfl⟩

end Daybook

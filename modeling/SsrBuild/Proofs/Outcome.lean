import Mathlib.Data.List.Forall2
import Mathlib.Tactic.Common

/-!
Chains of steps that can fail. A chain comes to a result if each of its steps does. Steps may also
change a state, which keeps the changes made before a failure.
-/

set_option autoImplicit false

namespace SsrBuild

/-- Two steps in a row come to a result if the first one does and the second one does after it. -/
theorem bind_eq_ok_iff {ε α β : Type} {first : Except ε α} {second : α → Except ε β} {result : β} :
    (first >>= second) = .ok result ↔ ∃ value, first = .ok value ∧ second value = .ok result := by
  cases first with
  | error error =>
    refine iff_of_false (fun h ↦ ?_) ?_
    · cases h
    · rintro ⟨value, hvalue, -⟩
      cases hvalue
  | ok value =>
    constructor
    · intro h
      exact ⟨value, rfl, h⟩
    · rintro ⟨found, hfound, h⟩
      cases hfound
      exact h

/-- Two steps in a row fail if the first one does, or the second one after it. -/
theorem bind_eq_error_iff {ε α β : Type} {first : Except ε α} {second : α → Except ε β}
    {error : ε} : (first >>= second) = .error error ↔
      first = .error error ∨ ∃ value, first = .ok value ∧ second value = .error error := by
  cases first with
  | error found =>
    constructor
    · intro h
      exact Or.inl (congrArg Except.error (Except.error.inj h))
    · rintro (h | ⟨value, hvalue, -⟩)
      · exact congrArg Except.error (Except.error.inj h)
      · cases hvalue
  | ok value =>
    constructor
    · intro h
      exact Or.inr ⟨value, rfl, h⟩
    · rintro (h | ⟨found, hfound, h⟩)
      · cases h
      · cases hfound
        exact h

/-- A step fails as it does whatever is made of its result. -/
theorem map_eq_error_iff {ε α β : Type} {outcome : Except ε α} {make : α → β} {error : ε} :
    outcome.map make = .error error ↔ outcome = .error error := by
  cases outcome with
  | error found =>
    constructor
    · intro h
      exact congrArg Except.error (Except.error.inj h)
    · intro h
      exact congrArg Except.error (Except.error.inj h)
  | ok value =>
    constructor
    · intro h
      cases h
    · intro h
      cases h

/-- What is made of the result of a step is there if the step succeeds. -/
theorem map_eq_ok_iff {ε α β : Type} {outcome : Except ε α} {make : α → β} {result : β} :
    outcome.map make = .ok result ↔ ∃ value, outcome = .ok value ∧ make value = result := by
  cases outcome with
  | error error =>
    constructor
    · intro h
      cases h
    · rintro ⟨value, hvalue, -⟩
      cases hvalue
  | ok value =>
    constructor
    · intro h
      exact ⟨value, rfl, Except.ok.inj h⟩
    · rintro ⟨found, hfound, h⟩
      cases hfound
      exact congrArg Except.ok h

/-- A search by a test that never fails is a search by what the test says. -/
theorem findM?_eq_ok {ε α : Type} {test : α → Except ε Bool} {chosen : α → Bool} {list : List α}
    (h : ∀ element ∈ list, test element = .ok (chosen element)) :
    list.findM? test = .ok (list.find? chosen) := by
  induction list with
  | nil => rfl
  | cons element rest ih =>
    have hrest := ih fun later hlater ↦ h later (List.mem_cons_of_mem element hlater)
    rw [List.findM?, h element List.mem_cons_self, List.find?_cons]
    cases chosen element with
    | true => rfl
    | false => exact hrest

/-- A step for every element of a list comes to a result if each of them does. -/
theorem exists_mapM_eq_ok_iff {ε α β : Type} {step : α → Except ε β} {list : List α} :
    (∃ values, list.mapM step = .ok values) ↔
      ∀ element ∈ list, ∃ value, step element = .ok value := by
  induction list with
  | nil => exact iff_of_true ⟨[], rfl⟩ (by simp)
  | cons element rest ih =>
    rw [List.forall_mem_cons, ← ih]
    simp only [List.mapM_cons, bind_eq_ok_iff]
    constructor
    · rintro ⟨values, value, hvalue, others, hothers, -⟩
      exact ⟨⟨value, hvalue⟩, others, hothers⟩
    · rintro ⟨⟨value, hvalue⟩, others, hothers⟩
      exact ⟨value :: others, value, hvalue, others, hothers, rfl⟩

/-- The results are those of the elements, in their order. -/
theorem mapM_eq_ok_iff {ε α β : Type} {step : α → Except ε β} {list : List α} {values : List β} :
    list.mapM step = .ok values ↔
      List.Forall₂ (fun element value ↦ step element = .ok value) list values := by
  induction list generalizing values with
  | nil =>
    rw [List.forall₂_nil_left_iff]
    constructor
    · intro h
      exact (Except.ok.inj h).symm
    · rintro rfl
      rfl
  | cons element rest ih =>
    simp only [List.mapM_cons, bind_eq_ok_iff, List.forall₂_cons_left_iff, ih]
    constructor
    · rintro ⟨value, hvalue, others, hothers, h⟩
      exact ⟨value, others, hvalue, hothers, (Except.ok.inj h).symm⟩
    · rintro ⟨value, others, hvalue, hothers, rfl⟩
      exact ⟨value, hvalue, others, hothers, rfl⟩

/-- It fails as the first of them does that fails. -/
theorem mapM_eq_error_iff {ε α β : Type} {step : α → Except ε β} {list : List α} {error : ε} :
    list.mapM step = .error error ↔ ∃ before failing after, list = before ++ failing :: after ∧
      (∀ element ∈ before, ∃ value, step element = .ok value) ∧ step failing = .error error := by
  induction list with
  | nil =>
    refine iff_of_false (fun h ↦ ?_) ?_
    · cases h
    · rintro ⟨before, failing, after, hlist, -⟩
      cases before <;> cases hlist
  | cons element rest ih =>
    have hnone : ∀ value others, (pure (value :: others) : Except ε (List β)) ≠ .error error := by
      intro value others h
      cases h
    simp only [List.mapM_cons, bind_eq_error_iff, ih, hnone, and_false, exists_false, or_false]
    constructor
    · rintro (hfirst | ⟨value, hvalue, before, failing, after, rfl, hbefore, hfailing⟩)
      · exact ⟨[], element, rest, rfl, by simp, hfirst⟩
      · exact ⟨element :: before, failing, after, rfl,
          List.forall_mem_cons.mpr ⟨⟨value, hvalue⟩, hbefore⟩, hfailing⟩
    · rintro ⟨before, failing, after, hlist, hbefore, hfailing⟩
      cases before with
      | nil =>
        obtain ⟨rfl, rfl⟩ := List.cons.inj hlist
        exact Or.inl hfailing
      | cons first before =>
        obtain ⟨rfl, rfl⟩ := List.cons.inj hlist
        obtain ⟨⟨value, hvalue⟩, hbefore⟩ := List.forall_mem_cons.mp hbefore
        exact Or.inr ⟨value, hvalue, before, failing, after, rfl, hbefore, hfailing⟩

/-! ### Steps that change a state -/

section Stateful

variable {ε ε' σ α β : Type} {first : ExceptT ε (StateM σ) α} {second : α → ExceptT ε (StateM σ) β}
  {before after : σ}

/-- The state as it is. -/
theorem run_get (state : σ) :
    (get : ExceptT ε (StateM σ) σ).run.run state = (.ok state, state) := rfl

/-- A change of the state. -/
theorem run_modify (change : σ → σ) (state : σ) :
    (modify change : ExceptT ε (StateM σ) PUnit).run.run state = (.ok ⟨⟩, change state) := rfl

/-- An outcome that is known changes no state. -/
theorem run_liftM (outcome : Except ε α) (state : σ) :
    (liftM outcome : ExceptT ε (StateM σ) α).run.run state = (outcome, state) := rfl

/-- After a step that succeeds the chain goes on. -/
theorem run_bind_of_ok {value : α} (h : first.run.run before = (.ok value, after)) :
    (first >>= second).run.run before = (second value).run.run after := by
  rw [ExceptT.run_bind, StateT.run_bind, h]
  rfl

/-- A step that fails ends the chain. -/
theorem run_bind_of_error {error : ε} (h : first.run.run before = (.error error, after)) :
    (first >>= second).run.run before = (.error error, after) := by
  rw [ExceptT.run_bind, StateT.run_bind, h]
  rfl

/-- A step that succeeds needs nothing in its place. -/
theorem run_tryCatch_of_ok {instead : ε → ExceptT ε (StateM σ) α} {value : α}
    (h : first.run.run before = (.ok value, after)) :
    (tryCatch first instead).run.run before = (.ok value, after) := by
  rw [ExceptT.run_tryCatch, StateT.run_bind, h]
  rfl

/-- Where a step fails, what is to be done in its place follows. -/
theorem run_tryCatch_of_error {instead : ε → ExceptT ε (StateM σ) α} {error : ε}
    (h : first.run.run before = (.error error, after)) :
    (tryCatch first instead).run.run before = (instead error).run.run after := by
  rw [ExceptT.run_tryCatch, StateT.run_bind, h]
  rfl

/-- A step whose faults are told in other words succeeds as it does. -/
theorem run_adapt_of_ok {told : ε → ε'} {value : α}
    (h : first.run.run before = (.ok value, after)) :
    (first.adapt told).run.run before = (.ok value, after) := by
  rw [ExceptT.run_adapt, StateT.run_map, h]
  rfl

/-- A step whose faults are told in other words fails as it does. -/
theorem run_adapt_of_error {told : ε → ε'} {error : ε}
    (h : first.run.run before = (.error error, after)) :
    (first.adapt told).run.run before = (.error (told error), after) := by
  rw [ExceptT.run_adapt, StateT.run_map, h]
  rfl

/-- A chain that succeeds has succeeded at its first step and then at the others. -/
theorem of_run_bind_ok {result : β} (h : (first >>= second).run.run before = (.ok result, after)) :
    ∃ value middle, first.run.run before = (.ok value, middle) ∧
      (second value).run.run middle = (.ok result, after) := by
  rcases hfirst : first.run.run before with ⟨outcome, middle⟩
  cases outcome with
  | error error =>
    rw [run_bind_of_error hfirst] at h
    cases h
  | ok value =>
    rw [run_bind_of_ok hfirst] at h
    exact ⟨value, middle, rfl, h⟩

/-- A chain that fails has failed at its first step, or after it. -/
theorem of_run_bind_error {error : ε}
    (h : (first >>= second).run.run before = (.error error, after)) :
    first.run.run before = (.error error, after) ∨
      ∃ value middle, first.run.run before = (.ok value, middle) ∧
        (second value).run.run middle = (.error error, after) := by
  rcases hfirst : first.run.run before with ⟨outcome, middle⟩
  cases outcome with
  | error fault =>
    rw [run_bind_of_error hfirst] at h
    obtain ⟨hfault, rfl⟩ := Prod.mk.inj h
    rw [Except.error.inj hfault]
    exact Or.inl rfl
  | ok value =>
    rw [run_bind_of_ok hfirst] at h
    exact Or.inr ⟨value, middle, rfl, h⟩

/-- A step whose faults are told in other words succeeds only as it does. -/
theorem of_run_adapt_ok {told : ε → ε'} {value : α}
    (h : (first.adapt told).run.run before = (.ok value, after)) :
    first.run.run before = (.ok value, after) := by
  rw [ExceptT.run_adapt, StateT.run_map] at h
  rcases hfirst : first.run.run before with ⟨outcome, middle⟩
  rw [hfirst] at h
  cases outcome with
  | error error => cases (Prod.mk.inj h).1
  | ok found =>
    obtain ⟨hvalue, rfl⟩ := Prod.mk.inj h
    rw [Except.ok.inj hvalue]

/-- A step whose faults are told in other words fails only as it does. -/
theorem of_run_adapt_error {told : ε → ε'} {error : ε'}
    (h : (first.adapt told).run.run before = (.error error, after)) :
    ∃ fault, told fault = error ∧ first.run.run before = (.error fault, after) := by
  rw [ExceptT.run_adapt, StateT.run_map] at h
  rcases hfirst : first.run.run before with ⟨outcome, middle⟩
  rw [hfirst] at h
  cases outcome with
  | error fault =>
    obtain ⟨herror, rfl⟩ := Prod.mk.inj h
    exact ⟨fault, Except.error.inj herror, rfl⟩
  | ok found => cases (Prod.mk.inj h).1

/-- A step that leaves a property of the state as it is, whether it succeeds or fails. -/
def Keeps (kept : σ → Prop) (step : ExceptT ε (StateM σ) α) : Prop :=
  ∀ state, kept state → kept (step.run.run state).2

/-- A chain keeps what all of its steps keep. -/
theorem Keeps.bind {kept : σ → Prop} (hfirst : Keeps kept first)
    (hsecond : ∀ value, Keeps kept (second value)) : Keeps kept (first >>= second) := by
  intro state hstate
  have hmiddle := hfirst state hstate
  rcases hrun : first.run.run state with ⟨outcome, middle⟩
  rw [hrun] at hmiddle
  cases outcome with
  | error error =>
    rw [run_bind_of_error hrun]
    exact hmiddle
  | ok value =>
    rw [run_bind_of_ok hrun]
    exact hsecond value middle hmiddle

/-- A step keeps what is kept by it and by all that is done in its place. -/
theorem Keeps.tryCatch {kept : σ → Prop} {instead : ε → ExceptT ε (StateM σ) α}
    (hfirst : Keeps kept first) (hinstead : ∀ error, Keeps kept (instead error)) :
    Keeps kept (MonadExcept.tryCatch first instead) := by
  intro state hstate
  have hmiddle := hfirst state hstate
  rcases hrun : first.run.run state with ⟨outcome, middle⟩
  rw [hrun] at hmiddle
  cases outcome with
  | error error =>
    rw [run_tryCatch_of_error hrun]
    exact hinstead error middle hmiddle
  | ok value =>
    rw [run_tryCatch_of_ok hrun]
    exact hmiddle

end Stateful

end SsrBuild

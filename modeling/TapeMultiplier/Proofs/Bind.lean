/-
Module: TapeMultiplier.Proofs.Bind
Layer: Proofs
Purpose: Taking computations in sequence apart: a sequence gives a result when each of its parts does.
Main exports: Except.bind_eq_ok, Except.bind_eq_error, exists_forall₂, Except.mapM_eq_ok,
  Except.mapM_eq_error_iff, Except.mapM_map, Except.mapM_mapM_eq_ok, EStateM.bind_eq_ok,
  EStateM.bind_of_ok, EStateM.bind_of_error
-/
import Mathlib.Data.List.Forall2

namespace TapeMultiplier

variable {ε σ α β γ : Type}

theorem Except.bind_eq_ok {first : Except ε α} {next : α → Except ε β} {result : β} :
    first >>= next = .ok result ↔ ∃ value, first = .ok value ∧ next value = .ok result := by
  cases first with
  | error error => simp [bind, Except.bind]
  | ok value => simp [bind, Except.bind]

theorem Except.bind_eq_error {first : Except ε α} {next : α → Except ε β} {error : ε} :
    first >>= next = .error error ↔
      first = .error error ∨ ∃ value, first = .ok value ∧ next value = .error error := by
  cases first with
  | error error => simp [bind, Except.bind]
  | ok value => simp [bind, Except.bind]

/-- There is a related item for every item just if there is a list of them. -/
theorem exists_forall₂ {relation : α → β → Prop} {items : List α} :
    (∃ others, List.Forall₂ relation items others) ↔ ∀ item ∈ items, ∃ other, relation item other := by
  induction items with
  | nil => exact ⟨fun _ _ member => (List.not_mem_nil member).elim, fun _ => ⟨[], .nil⟩⟩
  | cons item rest ih =>
      simp only [List.forall₂_cons_left_iff, List.forall_mem_cons, ← ih]
      constructor
      · rintro ⟨_, other, others, first, more, rfl⟩
        exact ⟨⟨other, first⟩, others, more⟩
      · rintro ⟨⟨other, first⟩, others, more⟩
        exact ⟨_, other, others, first, more, rfl⟩

/-- A traversal gives results when each item gives its own. -/
theorem Except.mapM_eq_ok {step : α → Except ε β} {items : List α} {results : List β} :
    items.mapM step = .ok results ↔
      List.Forall₂ (fun item result => step item = .ok result) items results := by
  induction items generalizing results with
  | nil =>
      rw [List.forall₂_nil_left_iff]
      exact ⟨fun done => (Except.ok.inj done).symm, fun none => none ▸ rfl⟩
  | cons item rest ih =>
      rw [List.mapM_cons, bind_eq_ok, List.forall₂_cons_left_iff]
      constructor
      · rintro ⟨result, first, others⟩
        obtain ⟨more, rested, ended⟩ := bind_eq_ok.mp others
        exact ⟨result, more, first, ih.mp rested, (Except.ok.inj ended).symm⟩
      · rintro ⟨result, more, first, rested, rfl⟩
        exact ⟨result, first, bind_eq_ok.mpr ⟨more, ih.mpr rested, rfl⟩⟩

/-- Behind an item that succeeds, a traversal fails as it does on the rest. -/
theorem Except.mapM_cons_eq_error {step : α → Except ε β} {item : α} {value : β} {rest : List α} {error : ε}
    (first : step item = .ok value) :
    (item :: rest).mapM step = .error error ↔ rest.mapM step = .error error := by
  rw [List.mapM_cons, first]
  cases rest.mapM step with
  | error cause => simp [bind, Except.bind]
  | ok values => exact iff_of_false nofun nofun

/-- A traversal fails with the error of the first item that fails. -/
theorem Except.mapM_eq_error_iff {step : α → Except ε β} {items : List α} {error : ε} :
    items.mapM step = .error error ↔ ∃ before item after, items = before ++ item :: after ∧
      (∀ earlier ∈ before, ∃ value, step earlier = .ok value) ∧ step item = .error error := by
  induction items with
  | nil => exact iff_of_false nofun (by simp)
  | cons item rest ih =>
      cases first : step item with
      | error cause =>
          rw [List.mapM_cons, first]
          constructor
          · rintro ⟨⟩
            exact ⟨[], item, rest, rfl, by simp, first⟩
          · rintro ⟨_ | ⟨head, before⟩, failing, after, split, succeed, fails⟩
            · cases split
              exact congrArg Except.error (Except.error.inj (first.symm.trans fails))
            · cases split
              obtain ⟨value, found⟩ := succeed item List.mem_cons_self
              cases first.symm.trans found
      | ok value =>
          refine (mapM_cons_eq_error first).trans (ih.trans ?_)
          constructor
          · rintro ⟨before, failing, after, rfl, succeed, fails⟩
            exact ⟨item :: before, failing, after, rfl,
              List.forall_mem_cons.mpr ⟨⟨value, first⟩, succeed⟩, fails⟩
          · rintro ⟨_ | ⟨head, before⟩, failing, after, split, succeed, fails⟩
            · cases split
              cases first.symm.trans fails
            · cases split
              exact ⟨before, failing, after, rfl, (List.forall_mem_cons.mp succeed).2, fails⟩

/-- The error of a traversal is that of one of its items. -/
theorem Except.mapM_eq_error {step : α → Except ε β} {items : List α} {error : ε}
    (failed : items.mapM step = .error error) : ∃ item ∈ items, step item = .error error := by
  obtain ⟨before, item, after, rfl, -, fails⟩ := mapM_eq_error_iff.mp failed
  exact ⟨item, by simp, fails⟩

/-- What is done with each result of a traversal may be done with all of them at the end. -/
theorem Except.mapM_map {step : α → Except ε β} (change : β → γ) (items : List α) :
    (items.mapM fun item => change <$> step item) = List.map change <$> items.mapM step := by
  induction items with
  | nil => rfl
  | cons item rest ih =>
      rw [List.mapM_cons, List.mapM_cons, ih]
      cases step item with
      | error error => rfl
      | ok value =>
          cases rest.mapM step with
          | error error => rfl
          | ok values => rfl

/-- Two traversals in sequence give results when each item does in both. -/
theorem Except.mapM_mapM_eq_ok {first : α → Except ε β} {second : β → Except ε γ} {items : List α}
    {results : List γ} :
    (items.mapM first >>= fun values => values.mapM second) = .ok results ↔
      List.Forall₂ (fun item result => (first item >>= second) = .ok result) items results := by
  simp only [bind_eq_ok, mapM_eq_ok]
  induction items generalizing results with
  | nil =>
      rw [List.forall₂_nil_left_iff]
      simp
  | cons item rest ih =>
      rw [List.forall₂_cons_left_iff]
      constructor
      · rintro ⟨_, _ | ⟨found, others⟩, _ | ⟨result, more⟩⟩
        exact ⟨_, _, ⟨_, found, result⟩, ih.mp ⟨_, others, more⟩, rfl⟩
      · rintro ⟨result, more, ⟨value, found, given⟩, rested, rfl⟩
        obtain ⟨values, others, last⟩ := ih.mpr rested
        exact ⟨value :: values, .cons found others, .cons given last⟩

theorem EStateM.bind_eq_ok {first : EStateM ε σ α} {next : α → EStateM ε σ β} {start final : σ}
    {result : β} :
    (first >>= next) start = .ok result final ↔
      ∃ value middle, first start = .ok value middle ∧ next value middle = .ok result final := by
  simp only [bind, EStateM.bind]
  cases first start with
  | error error middle => simp
  | ok value middle =>
      constructor
      · intro succeeded
        exact ⟨value, middle, rfl, succeeded⟩
      · rintro ⟨_, _, ⟨⟩, succeeded⟩
        exact succeeded

theorem EStateM.bind_of_ok {first : EStateM ε σ α} {next : α → EStateM ε σ β} {start middle : σ}
    {value : α} (ran : first start = .ok value middle) :
    (first >>= next) start = next value middle := by
  show EStateM.bind first next start = _
  rw [EStateM.bind, ran]

theorem EStateM.bind_of_error {first : EStateM ε σ α} {next : α → EStateM ε σ β} {start middle : σ}
    {error : ε} (failed : first start = .error error middle) :
    (first >>= next) start = .error error middle := by
  show EStateM.bind first next start = _
  rw [EStateM.bind, failed]

end TapeMultiplier

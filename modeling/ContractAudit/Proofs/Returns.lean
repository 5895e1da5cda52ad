import Mathlib.Data.List.Basic

/-!
# Computations that return

A computation that may stop with an error returns when it does not. The first laws follow a computation through its
steps, so that the condition under which the whole returns is read off the conditions of the parts. The others compare
two computations step by step: as alike if they end the same way, or as both returning results that are related.
-/

namespace ContractAudit

/-- The computation ends with a result. -/
def Returns {ε α : Type} (attempt : Except ε α) : Prop := ∃ result, attempt = .ok result

variable {ε ε' α β : Type}

@[simp] theorem returns_ok (result : α) : Returns (.ok result : Except ε α) := ⟨result, rfl⟩

@[simp] theorem returns_pure (result : α) : Returns (pure result : Except ε α) := ⟨result, rfl⟩

@[simp] theorem not_returns_error (error : ε) : ¬ Returns (.error error : Except ε α) := by
  rintro ⟨result, h⟩
  cases h

instance (attempt : Except ε α) : Decidable (Returns attempt) :=
  match attempt with
  | .ok result => isTrue (returns_ok result)
  | .error error => isFalse (not_returns_error error)

/-- The result of two steps comes from the second one, run on the result of the first. -/
theorem bind_eq_ok_iff {attempt : Except ε α} {next : α → Except ε β} {result : β} :
    attempt >>= next = .ok result ↔ ∃ value, attempt = .ok value ∧ next value = .ok result := by
  cases attempt with
  | error error =>
    constructor
    · intro h
      cases h
    · rintro ⟨value, h, -⟩
      cases h
  | ok value =>
    constructor
    · intro h
      exact ⟨value, rfl, h⟩
    · rintro ⟨other, h, hnext⟩
      cases h
      exact hnext

/-- Two steps return if the first one does and the second one does on its result. -/
theorem returns_bind {attempt : Except ε α} {next : α → Except ε β} :
    Returns (attempt >>= next) ↔ ∃ value, attempt = .ok value ∧ Returns (next value) := by
  simp only [Returns, bind_eq_ok_iff]
  constructor
  · rintro ⟨result, value, h, hnext⟩
    exact ⟨value, h, result, hnext⟩
  · rintro ⟨value, h, result, hnext⟩
    exact ⟨result, value, h, hnext⟩

/-- When the second step always returns, only the first one matters. -/
theorem returns_bind_of_forall {attempt : Except ε α} {next : α → Except ε β} (total : ∀ value, Returns (next value)) :
    Returns (attempt >>= next) ↔ Returns attempt := by
  rw [returns_bind]
  constructor
  · rintro ⟨value, h, -⟩
    exact ⟨value, h⟩
  · rintro ⟨value, h⟩
    exact ⟨value, h, total value⟩

@[simp] theorem returns_map {attempt : Except ε α} {change : α → β} :
    Returns (attempt.map change) ↔ Returns attempt := by
  cases attempt <;> simp [Except.map]

@[simp] theorem returns_mapError {attempt : Except ε α} {change : ε → ε'} :
    Returns (attempt.mapError change) ↔ Returns attempt := by
  cases attempt <;> simp [Except.mapError]

theorem mapError_eq_ok_iff {attempt : Except ε α} {change : ε → ε'} {result : α} :
    attempt.mapError change = .ok result ↔ attempt = .ok result := by
  cases attempt <;> simp [Except.mapError]

/-- A list is worked off exactly when each of its items is. -/
theorem returns_mapM {step : α → Except ε β} {items : List α} :
    Returns (items.mapM step) ↔ ∀ item ∈ items, Returns (step item) := by
  induction items with
  | nil => simp
  | cons item rest ih =>
    rw [List.mapM_cons, returns_bind, List.forall_mem_cons, ← ih]
    constructor
    · rintro ⟨value, h, hrest⟩
      rw [returns_bind_of_forall fun _ ↦ returns_pure _] at hrest
      exact ⟨⟨value, h⟩, hrest⟩
    · rintro ⟨⟨value, h⟩, hrest⟩
      refine ⟨value, h, ?_⟩
      rw [returns_bind_of_forall fun _ ↦ returns_pure _]
      exact hrest

/-- The results of a list that is worked off stand in the order of its items. -/
theorem forall₂_of_mapM_eq_ok {step : α → Except ε β} {items : List α} {results : List β}
    (h : items.mapM step = .ok results) : List.Forall₂ (fun item result ↦ step item = .ok result) items results := by
  induction items generalizing results with
  | nil =>
    cases h
    exact List.Forall₂.nil
  | cons item rest ih =>
    rw [List.mapM_cons] at h
    obtain ⟨value, hvalue, h⟩ := bind_eq_ok_iff.mp h
    obtain ⟨values, hvalues, h⟩ := bind_eq_ok_iff.mp h
    cases h
    exact List.Forall₂.cons hvalue (ih hvalues)

/-! ## Computations that are alike -/

variable {γ δ : Type}

/-- The computations stop with the same error, or their results look the same. -/
def Alike (view : α → β) (first second : Except ε α) : Prop := first.map view = second.map view

theorem alike_ok_iff {view : α → β} {first second : α} :
    Alike view (.ok first : Except ε α) (.ok second) ↔ view first = view second := by
  simp [Alike, Except.map]

/-- What looks the same looks the same from further away. -/
theorem Alike.comp {view : α → β} {first second : Except ε α} (h : Alike view first second) (further : β → γ) :
    Alike (further ∘ view) first second := by
  have hmap (attempt : Except ε α) : attempt.map (further ∘ view) = (attempt.map view).map further := by
    cases attempt <;> rfl
  unfold Alike at h ⊢
  rw [hmap, hmap, h]

/-- Computations that look alike stop with one error or return results that look the same. -/
theorem Alike.cases {view : α → β} {first second : Except ε α} (h : Alike view first second) :
    (∃ error, first = .error error ∧ second = .error error) ∨
      ∃ value value', first = .ok value ∧ second = .ok value' ∧ view value = view value' := by
  unfold Alike at h
  cases first with
  | error error =>
    cases second with
    | error error' =>
      cases h
      exact Or.inl ⟨error, rfl, rfl⟩
    | ok value' => cases h
  | ok value =>
    cases second with
    | error error' => cases h
    | ok value' => exact Or.inr ⟨value, value', rfl, rfl, alike_ok_iff.mp h⟩

/-- Steps that treat results of the same look alike keep computations alike. -/
theorem Alike.bind {view : α → β} {further : γ → δ} {first second : Except ε α} {next other : α → Except ε γ}
    (h : Alike view first second)
    (hnext : ∀ value value', view value = view value' → Alike further (next value) (other value')) :
    Alike further (first >>= next) (second >>= other) := by
  rcases h.cases with ⟨error, rfl, rfl⟩ | ⟨value, value', rfl, rfl, hview⟩
  · rfl
  · exact hnext value value' hview

theorem Alike.bind_left {further : γ → δ} (attempt : Except ε α) {next other : α → Except ε γ}
    (hnext : ∀ value, Alike further (next value) (other value)) :
    Alike further (attempt >>= next) (attempt >>= other) := by
  cases attempt with
  | error error => rfl
  | ok value => exact hnext value

/-- Lists are worked off alike if each of their items is. -/
theorem Alike.mapM {view : β → γ} {step other : α → Except ε β} (h : ∀ item, Alike view (step item) (other item))
    (items : List α) : Alike (List.map view) (items.mapM step) (items.mapM other) := by
  induction items with
  | nil => rfl
  | cons item rest ih =>
    rw [List.mapM_cons, List.mapM_cons]
    apply (h item).bind
    intro value value' hvalue
    apply ih.bind
    intro values values' hvalues
    apply alike_ok_iff.mpr
    rw [List.map_cons, List.map_cons, hvalue, hvalues]

/-! ## Computations that both return -/

def BothReturn (related : α → α → Prop) (first second : Except ε α) : Prop :=
  ∃ value value', first = .ok value ∧ second = .ok value' ∧ related value value'

namespace BothReturn

variable {related : α → α → Prop} {further : β → β → Prop}

theorem pure {value value' : α} (h : related value value') :
    BothReturn related (Pure.pure value : Except ε α) (Pure.pure value') := ⟨value, value', rfl, rfl, h⟩

theorem bind {first second : Except ε α} {next other : α → Except ε β} (h : BothReturn related first second)
    (hnext : ∀ value value', related value value' → BothReturn further (next value) (other value')) :
    BothReturn further (first >>= next) (second >>= other) := by
  obtain ⟨value, value', rfl, rfl, hvalue⟩ := h
  exact hnext value value' hvalue

/-- Two lists are worked off side by side. -/
theorem mapM {step : α → Except ε β} {items items' : List α}
    (h : List.Forall₂ (fun item item' ↦ BothReturn further (step item) (step item')) items items') :
    BothReturn (List.Forall₂ further) (items.mapM step) (items'.mapM step) := by
  induction h with
  | nil => exact pure List.Forall₂.nil
  | cons hitem _ ih =>
    rw [List.mapM_cons, List.mapM_cons]
    apply hitem.bind
    intro value value' hvalue
    apply ih.bind
    intro values values' hvalues
    exact pure (List.Forall₂.cons hvalue hvalues)

end BothReturn

end ContractAudit

import Mathlib.Data.List.Basic

/-!
# Machines driven by a list of inputs

A machine has an initial state and a total transition function. `run` folds a list of inputs, and
`log` collects what an observer notes at each step. `Admits guard` says that every input of a list
satisfies a guard in the state it is applied to, which is how an assumption about callers enters a
statement about runs. The three rules turn a fact about one step into a fact about a whole run:
`invariant_run` for a predicate of the state, `invariant_log` for a predicate of the state and the
log, and `stable_run` for a relation between an earlier state and every later one.
-/

set_option autoImplicit false
set_option relaxedAutoImplicit false

namespace AgentRuntime.Library

/-- An initial state and a transition function. -/
structure Machine (σ ι : Type) where
  init : σ
  next : σ → ι → σ

namespace Machine

variable {σ ι β : Type} (machine : Machine σ ι)

/-- The state after a list of inputs. -/
def run (state : σ) (inputs : List ι) : σ := inputs.foldl machine.next state

/-- What an observer notes along a list of inputs. -/
def log (note : σ → ι → List β) (state : σ) : List ι → List β
  | [] => []
  | input :: rest => note state input ++ log note (machine.next state input) rest

/-- Every input satisfies the guard in the state it is applied to. -/
def Admits (guard : σ → ι → Prop) (state : σ) : List ι → Prop
  | [] => True
  | input :: rest => guard state input ∧ Admits guard (machine.next state input) rest

instance Admits.decidable (guard : σ → ι → Prop) [∀ state input, Decidable (guard state input)]
    (state : σ) : (inputs : List ι) → Decidable (machine.Admits guard state inputs)
  | [] => isTrue trivial
  | input :: rest =>
    have := Admits.decidable guard (machine.next state input) rest
    inferInstanceAs (Decidable (guard state input ∧ _))

/-- Some list of inputs leads from the initial state to this one. -/
def Reachable (state : σ) : Prop := ∃ inputs, machine.run machine.init inputs = state

@[simp] theorem run_nil (state : σ) : machine.run state [] = state := rfl

@[simp] theorem run_cons (state : σ) (input : ι) (rest : List ι) :
    machine.run state (input :: rest) = machine.run (machine.next state input) rest := rfl

theorem run_append (state : σ) (inputs more : List ι) :
    machine.run state (inputs ++ more) = machine.run (machine.run state inputs) more :=
  List.foldl_append

theorem admits_append (guard : σ → ι → Prop) (state : σ) (inputs more : List ι) :
    machine.Admits guard state (inputs ++ more) ↔
      machine.Admits guard state inputs ∧
        machine.Admits guard (machine.run state inputs) more := by
  induction inputs generalizing state with
  | nil => simp [Admits]
  | cons input rest ih =>
    simp only [List.cons_append, Admits, run_cons, ih, and_assoc]

theorem admits_true (state : σ) (inputs : List ι) :
    machine.Admits (fun _ _ ↦ True) state inputs := by
  induction inputs generalizing state with
  | nil => trivial
  | cons input rest ih => exact ⟨trivial, ih _⟩

theorem admits_of_forall {guard : σ → ι → Prop} {inputs : List ι}
    (hguard : ∀ input ∈ inputs, ∀ state, guard state input) (state : σ) :
    machine.Admits guard state inputs := by
  induction inputs generalizing state with
  | nil => trivial
  | cons input rest ih =>
    refine ⟨hguard input List.mem_cons_self state, ih (fun other hmem ↦ ?_) _⟩
    exact hguard other (List.mem_cons_of_mem _ hmem)

theorem Admits.mono {guard weaker : σ → ι → Prop}
    (hweaker : ∀ state input, guard state input → weaker state input) {state : σ}
    {inputs : List ι} (hadmits : machine.Admits guard state inputs) :
    machine.Admits weaker state inputs := by
  induction inputs generalizing state with
  | nil => trivial
  | cons input rest ih => exact ⟨hweaker _ _ hadmits.1, ih hadmits.2⟩

theorem mem_log_iff {note : σ → ι → List β} {state : σ} {inputs : List ι} {entry : β} :
    entry ∈ machine.log note state inputs ↔ ∃ earlier input later,
      inputs = earlier ++ input :: later ∧ entry ∈ note (machine.run state earlier) input := by
  induction inputs generalizing state with
  | nil => simp [log]
  | cons head rest ih =>
    rw [log, List.mem_append, ih]
    constructor
    · rintro (hhead | ⟨earlier, input, later, rfl, hentry⟩)
      · exact ⟨[], head, rest, rfl, hhead⟩
      · exact ⟨head :: earlier, input, later, rfl, hentry⟩
    · rintro ⟨earlier, input, later, hinputs, hentry⟩
      cases earlier with
      | nil =>
        obtain ⟨rfl, rfl⟩ := List.cons.inj hinputs
        exact .inl hentry
      | cons first earlier =>
        obtain ⟨rfl, rfl⟩ := List.cons.inj hinputs
        exact .inr ⟨earlier, input, later, rfl, hentry⟩

/-- A predicate that every admitted step keeps holds at the end of every admitted run. -/
theorem invariant_run {guard : σ → ι → Prop} (holds : σ → Prop)
    (hstep : ∀ state input, holds state → guard state input → holds (machine.next state input))
    {state : σ} {inputs : List ι} (hstart : holds state)
    (hadmits : machine.Admits guard state inputs) : holds (machine.run state inputs) := by
  induction inputs generalizing state with
  | nil => exact hstart
  | cons input rest ih => exact ih (hstep _ _ hstart hadmits.1) hadmits.2

/-- A predicate of the state and the log that every admitted step keeps, where the step adds its
notes to the log. -/
theorem invariant_log {guard : σ → ι → Prop} {note : σ → ι → List β}
    (holds : σ → List β → Prop)
    (hstep : ∀ state notes input, holds state notes → guard state input →
      holds (machine.next state input) (notes ++ note state input))
    {state : σ} {notes : List β} {inputs : List ι} (hstart : holds state notes)
    (hadmits : machine.Admits guard state inputs) :
    holds (machine.run state inputs) (notes ++ machine.log note state inputs) := by
  induction inputs generalizing state notes with
  | nil => simpa [log] using hstart
  | cons input rest ih =>
    have hnext := ih (hstep _ _ _ hstart hadmits.1) hadmits.2
    simpa only [run_cons, log, List.append_assoc] using hnext

/-- A reflexive and transitive relation between the states before and after each step that keeps an
invariant relates the two ends of every run. -/
theorem stable_run {guard : σ → ι → Prop} (holds : σ → Prop) (related : σ → σ → Prop)
    (hrefl : ∀ state, related state state)
    (htrans : ∀ first second third, related first second → related second third →
      related first third)
    (hkeep : ∀ state input, holds state → guard state input → holds (machine.next state input))
    (hstep : ∀ state input, holds state → guard state input →
      related state (machine.next state input))
    {state : σ} {inputs : List ι} (hstart : holds state)
    (hadmits : machine.Admits guard state inputs) :
    related state (machine.run state inputs) := by
  induction inputs generalizing state with
  | nil => exact hrefl _
  | cons input rest ih =>
    exact htrans _ _ _ (hstep _ _ hstart hadmits.1)
      (ih (hkeep _ _ hstart hadmits.1) hadmits.2)

end Machine

end AgentRuntime.Library

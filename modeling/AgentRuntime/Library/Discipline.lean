import Mathlib.Data.List.Infix
import AgentRuntime.Library.Program

/-!
# Histories of a program, and disciplines they obey

The history of a thread lists the operations it performed, each with its answer. A `Discipline` says
which answers an operation can have and which operations are allowed after a history.
`Program.Obeys discipline post program history` follows the program through every possible answer:
started after `history`, it performs allowed operations only, and it ends in a history that
satisfies `post`. Nothing here mentions a shared state. What an entry of a history says about the
state is a matter of the system the threads run in, and so is what follows from an operation that
was allowed; the code of a thread is only followed once.

Histories only grow, so the rules for sequencing and for `try … except` hand the later history on
together with the fact that it extends the earlier one. A program `Conforms` if it obeys after every
history, which composes without any condition in the middle.
-/

set_option autoImplicit false
set_option relaxedAutoImplicit false

namespace AgentRuntime.Library

/-- One operation with its answer. -/
structure Performed {ω : Type} (ρ : ω → Type) (ε : Type) where
  op : ω
  answer : Except ε (ρ op)

/-- Which answers are possible, and which operations are allowed after a history. -/
structure Discipline {ω : Type} (ρ : ω → Type) (ε : Type) where
  possible : (op : ω) → Except ε (ρ op) → Prop
  allowed : List (Performed ρ ε) → ω → Prop

namespace Program

variable {ω : Type} {ρ : ω → Type} {ε : Type} {scope wider : ω → Bool} {α β : Type}

/-- The program performs allowed operations only, and ends as the postcondition says. -/
def Obeys (discipline : Discipline ρ ε) (post : Except ε α → List (Performed ρ ε) → Prop) :
    Program ρ ε scope α → List (Performed ρ ε) → Prop
  | done value, history => post (.ok value) history
  | raise error, history => post (.error error) history
  | call op _ next, history => discipline.allowed history op ∧
    ∀ answer, discipline.possible op answer →
      (next answer).Obeys discipline post (history ++ [⟨op, answer⟩])

variable {discipline : Discipline ρ ε} {post : Except ε α → List (Performed ρ ε) → Prop}
  {program : Program ρ ε scope α} {history : List (Performed ρ ε)}

theorem obeys_mono {weaker : Except ε α → List (Performed ρ ε) → Prop}
    (hobeys : program.Obeys discipline post history)
    (hweaker : ∀ result later, history <+: later → post result later → weaker result later) :
    program.Obeys discipline weaker history := by
  induction program generalizing history with
  | done value => exact hweaker _ _ (List.prefix_refl _) hobeys
  | raise error => exact hweaker _ _ (List.prefix_refl _) hobeys
  | call op hscope next ih =>
    refine ⟨hobeys.1, fun answer hpossible ↦ ih answer (hobeys.2 answer hpossible) ?_⟩
    intro result later hlater
    exact hweaker result later ((List.prefix_append _ _).trans hlater)

/-- One operation: it is allowed, and each possible answer satisfies the postcondition. -/
theorem obeys_ask {op : ω} {hscope : scope op = true}
    {post : Except ε (ρ op) → List (Performed ρ ε) → Prop}
    (hallowed : discipline.allowed history op)
    (hpost : ∀ answer, discipline.possible op answer → post answer (history ++ [⟨op, answer⟩])) :
    (ask op hscope : Program ρ ε scope (ρ op)).Obeys discipline post history := by
  refine ⟨hallowed, fun answer hpossible ↦ ?_⟩
  cases answer with
  | ok value => exact hpost _ hpossible
  | error error => exact hpost _ hpossible

/-- Sequencing with a named condition in the middle. -/
theorem obeys_seq (middle : Except ε α → List (Performed ρ ε) → Prop)
    {post : Except ε β → List (Performed ρ ε) → Prop} {rest : α → Program ρ ε scope β}
    (hobeys : program.Obeys discipline middle history)
    (hok : ∀ value later, history <+: later → middle (.ok value) later →
      (rest value).Obeys discipline post later)
    (herror : ∀ error later, history <+: later → middle (.error error) later →
      post (.error error) later) :
    (program.bind rest).Obeys discipline post history := by
  induction program generalizing history with
  | done value => exact hok value history (List.prefix_refl _) hobeys
  | raise error => exact herror error history (List.prefix_refl _) hobeys
  | call op hscope next ih =>
    refine ⟨hobeys.1, fun answer hpossible ↦ ih answer (hobeys.2 answer hpossible) ?_ ?_⟩
    · intro value later hlater
      exact hok value later ((List.prefix_append _ _).trans hlater)
    · intro error later hlater
      exact herror error later ((List.prefix_append _ _).trans hlater)

/-- `try … except`: what the body raises is what the handler starts from. -/
theorem obeys_handle (middle : Except ε α → List (Performed ρ ε) → Prop)
    {handler : ε → Program ρ ε scope α} (hobeys : program.Obeys discipline middle history)
    (hok : ∀ value later, history <+: later → middle (.ok value) later → post (.ok value) later)
    (herror : ∀ error later, history <+: later → middle (.error error) later →
      (handler error).Obeys discipline post later) :
    (program.handle handler).Obeys discipline post history := by
  induction program generalizing history with
  | done value => exact hok value history (List.prefix_refl _) hobeys
  | raise error => exact herror error history (List.prefix_refl _) hobeys
  | call op hscope next ih =>
    refine ⟨hobeys.1, fun answer hpossible ↦ ih answer (hobeys.2 answer hpossible) ?_ ?_⟩
    · intro value later hlater
      exact hok value later ((List.prefix_append _ _).trans hlater)
    · intro error later hlater
      exact herror error later ((List.prefix_append _ _).trans hlater)

/-- `try … except` followed by what handles both ends. -/
theorem obeys_try (middle : Except ε α → List (Performed ρ ε) → Prop)
    {post : Except ε β → List (Performed ρ ε) → Prop} {rest : Except ε α → Program ρ ε scope β}
    (hobeys : program.Obeys discipline middle history)
    (hrest : ∀ result later, history <+: later → middle result later →
      (rest result).Obeys discipline post later) :
    (program.attempt.bind rest).Obeys discipline post history := by
  unfold attempt
  induction program generalizing history with
  | done value => exact hrest (.ok value) history (List.prefix_refl _) hobeys
  | raise error => exact hrest (.error error) history (List.prefix_refl _) hobeys
  | call op hscope next ih =>
    refine ⟨hobeys.1, fun answer hpossible ↦ ih answer (hobeys.2 answer hpossible) ?_⟩
    intro result later hlater
    exact hrest result later ((List.prefix_append _ _).trans hlater)

theorem obeys_widen {hwider : ∀ op, scope op = true → wider op = true}
    (hobeys : program.Obeys discipline post history) :
    (program.widen hwider).Obeys discipline post history := by
  induction program generalizing history with
  | done value => exact hobeys
  | raise error => exact hobeys
  | call op hscope next ih =>
    exact ⟨hobeys.1, fun answer hpossible ↦ ih answer (hobeys.2 answer hpossible)⟩

/-! ### Programs that obey after every history -/

/-- The program performs allowed operations only, whatever happened before. -/
structure Conforms (discipline : Discipline ρ ε) (program : Program ρ ε scope α) : Prop where
  obeys : ∀ history, program.Obeys discipline (fun _ _ ↦ True) history

theorem conforms_done (value : α) :
    Conforms discipline (done value : Program ρ ε scope α) := ⟨fun _ ↦ trivial⟩

theorem conforms_raise (error : ε) :
    Conforms discipline (raise error : Program ρ ε scope α) := ⟨fun _ ↦ trivial⟩

/-- An operation that is always allowed. -/
theorem conforms_ask {op : ω} {hscope : scope op = true}
    (hallowed : ∀ history, discipline.allowed history op) :
    Conforms discipline (ask op hscope : Program ρ ε scope (ρ op)) :=
  ⟨fun history ↦ obeys_ask (hallowed history) fun _ _ ↦ trivial⟩

theorem conforms_bind {rest : α → Program ρ ε scope β} (hprogram : Conforms discipline program)
    (hrest : ∀ value, Conforms discipline (rest value)) :
    Conforms discipline (program.bind rest) := by
  refine ⟨fun history ↦ ?_⟩
  exact obeys_seq (fun _ _ ↦ True) (hprogram.obeys history)
    (fun value later _ _ ↦ (hrest value).obeys later) fun _ _ _ _ ↦ trivial

theorem conforms_handle {handler : ε → Program ρ ε scope α}
    (hprogram : Conforms discipline program)
    (hhandler : ∀ error, Conforms discipline (handler error)) :
    Conforms discipline (program.handle handler) := by
  refine ⟨fun history ↦ ?_⟩
  exact obeys_handle (fun _ _ ↦ True) (hprogram.obeys history) (fun _ _ _ _ ↦ trivial)
    fun error later _ _ ↦ (hhandler error).obeys later

theorem conforms_attempt (hprogram : Conforms discipline program) :
    Conforms discipline program.attempt :=
  conforms_handle (conforms_bind hprogram fun _ ↦ conforms_done _) fun _ ↦ conforms_done _

theorem conforms_widen {hwider : ∀ op, scope op = true → wider op = true}
    (hprogram : Conforms discipline program) : Conforms discipline (program.widen hwider) :=
  ⟨fun history ↦ obeys_widen (hprogram.obeys history)⟩

/-- Every program of a scope conforms, if the scope's operations are always allowed. -/
theorem conforms_of_scope (program : Program ρ ε scope α)
    (hscope : ∀ op, scope op = true → ∀ history, discipline.allowed history op) :
    Conforms discipline program := by
  refine ⟨fun history ↦ ?_⟩
  induction program generalizing history with
  | done value => trivial
  | raise error => trivial
  | call op hop next ih => exact ⟨hscope op hop history, fun answer _ ↦ ih answer _⟩

end Program

end AgentRuntime.Library

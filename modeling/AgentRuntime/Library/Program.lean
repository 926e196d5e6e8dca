import Mathlib.Logic.Function.Basic

/-!
# Programs with exceptions, and rely-guarantee reasoning about them

A `Program` is a tree of operations: it returns, raises, or performs an operation and goes on with
its answer, where an operation may itself answer with an exception. The type names the scope of the
program, the operations it may perform, so that what a scope cannot do is known without looking at
the code. `bind` and `handle` are sequencing and `try … except`. `Runs` is what a program does when
nobody interferes.

Several threads run such programs side by side over one shared state. A `Protocol` fixes what each
thread may assume about the steps of the others (`rely`), what it promises about its own (`guar`),
and the invariant that all steps keep. `Program.wp protocol thread post program state` says that the
program, started in `state`, keeps invariant and promise at each of its steps under any
interference, and satisfies `post` if it ends. The rules compose it along `bind` and `handle`;
`wp_of_scope` proves it for every program of a scope at once, and `Sound` carries it through the
steps of a whole crew of threads.
-/

set_option autoImplicit false
set_option relaxedAutoImplicit false

namespace AgentRuntime.Library

/-- A program over operations `ω` with answers `ρ`, exceptions `ε` and a scope. -/
inductive Program {ω : Type} (ρ : ω → Type) (ε : Type) (scope : ω → Bool) (α : Type) : Type
  | done (value : α)
  | raise (error : ε)
  | call (op : ω) (hscope : scope op = true) (next : Except ε (ρ op) → Program ρ ε scope α)

namespace Program

variable {ω : Type} {ρ : ω → Type} {ε : Type} {scope wider : ω → Bool} {α β : Type}

/-- Sequencing: an exception skips what follows. -/
def bind : Program ρ ε scope α → (α → Program ρ ε scope β) → Program ρ ε scope β
  | done value, rest => rest value
  | raise error, _ => raise error
  | call op hscope next, rest => call op hscope fun answer ↦ (next answer).bind rest

/-- `try program except error: handler`. -/
def handle : Program ρ ε scope α → (ε → Program ρ ε scope α) → Program ρ ε scope α
  | done value, _ => done value
  | raise error, handler => handler error
  | call op hscope next, handler => call op hscope fun answer ↦ (next answer).handle handler

/-- Perform one operation. -/
def ask (op : ω) (hscope : scope op = true) : Program ρ ε scope (ρ op) :=
  call op hscope fun
    | .ok answer => done answer
    | .error error => raise error

/-- The result of a program, its exception included: what follows a `try` statement. -/
def attempt (program : Program ρ ε scope α) : Program ρ ε scope (Except ε α) :=
  (program.bind fun value ↦ done (.ok value)).handle fun error ↦ done (.error error)

/-- The program in a wider scope. -/
def widen (hwider : ∀ op, scope op = true → wider op = true) :
    Program ρ ε scope α → Program ρ ε wider α
  | done value => done value
  | raise error => raise error
  | call op hscope next => call op (hwider op hscope) fun answer ↦ (next answer).widen hwider

instance : Monad (Program ρ ε scope) where
  pure := done
  bind := bind

instance : MonadExcept ε (Program ρ ε scope) where
  throw := raise
  tryCatch := handle

@[simp] theorem pure_eq_done (value : α) : (pure value : Program ρ ε scope α) = done value := rfl

@[simp] theorem throw_eq_raise (error : ε) :
    (throw error : Program ρ ε scope α) = raise error := rfl

@[simp] theorem bind_eq_bind (program : Program ρ ε scope α) (rest : α → Program ρ ε scope β) :
    program >>= rest = program.bind rest := rfl

@[simp] theorem tryCatch_eq_handle (program : Program ρ ε scope α)
    (handler : ε → Program ρ ε scope α) : tryCatch program handler = program.handle handler := rfl

@[simp] theorem discard_eq_bind (program : Program ρ ε scope α) :
    discard program = program.bind fun _ ↦ done PUnit.unit := rfl

@[simp] theorem done_bind (value : α) (rest : α → Program ρ ε scope β) :
    (done value).bind rest = rest value := rfl

@[simp] theorem raise_bind (error : ε) (rest : α → Program ρ ε scope β) :
    (raise error).bind rest = raise error := rfl

@[simp] theorem bind_bind {γ : Type} (program : Program ρ ε scope α)
    (rest : α → Program ρ ε scope β) (last : β → Program ρ ε scope γ) :
    (program.bind rest).bind last = program.bind fun value ↦ (rest value).bind last := by
  induction program with
  | done value => rfl
  | raise error => rfl
  | call op hscope next ih =>
    simp only [bind]
    congr 1
    funext answer
    exact ih answer

@[simp] theorem widen_bind (hwider : ∀ op, scope op = true → wider op = true)
    (program : Program ρ ε scope α) (rest : α → Program ρ ε scope β) :
    (program.bind rest).widen hwider =
      (program.widen hwider).bind fun value ↦ (rest value).widen hwider := by
  induction program with
  | done value => rfl
  | raise error => rfl
  | call op hscope next ih =>
    simp only [bind, widen]
    congr 1
    funext answer
    exact ih answer

/-! ### What a program may return -/

/-- Some answers lead the program to the value. -/
def Returns : Program ρ ε scope α → α → Prop
  | done value, result => value = result
  | raise _, _ => False
  | call _ _ next, result => ∃ answer, (next answer).Returns result

theorem returns_bind {program : Program ρ ε scope α} {rest : α → Program ρ ε scope β}
    {result : β} (hreturns : (program.bind rest).Returns result) :
    ∃ value, program.Returns value ∧ (rest value).Returns result := by
  induction program with
  | done value => exact ⟨value, rfl, hreturns⟩
  | raise error => exact hreturns.elim
  | call op hscope next ih =>
    obtain ⟨answer, hanswer⟩ := hreturns
    obtain ⟨value, hvalue, hresult⟩ := ih answer hanswer
    exact ⟨value, ⟨answer, hvalue⟩, hresult⟩

/-- What follows a program matters only for the values it may return. -/
theorem bind_congr_returns {program : Program ρ ε scope α} {rest other : α → Program ρ ε scope β}
    (hrest : ∀ value, program.Returns value → rest value = other value) :
    program.bind rest = program.bind other := by
  induction program with
  | done value => exact hrest value rfl
  | raise error => rfl
  | call op hscope next ih =>
    simp only [bind]
    congr 1
    funext answer
    exact ih answer fun value hvalue ↦ hrest value ⟨answer, hvalue⟩

theorem returns_widen {hwider : ∀ op, scope op = true → wider op = true}
    {program : Program ρ ε scope α} {result : α}
    (hreturns : (program.widen hwider).Returns result) :
    program.Returns result := by
  induction program with
  | done value => exact hreturns
  | raise error => exact hreturns
  | call op hscope next ih =>
    obtain ⟨answer, hanswer⟩ := hreturns
    exact ⟨answer, ih answer hanswer⟩

theorem returns_handle {program : Program ρ ε scope α} {handler : ε → Program ρ ε scope α}
    {result : α} (hreturns : (program.handle handler).Returns result) :
    program.Returns result ∨ ∃ error, (handler error).Returns result := by
  induction program with
  | done value => exact .inl hreturns
  | raise error => exact .inr ⟨error, hreturns⟩
  | call op hscope next ih =>
    obtain ⟨answer, hanswer⟩ := hreturns
    rcases ih answer hanswer with hbody | hhandler
    · exact .inl ⟨answer, hbody⟩
    · exact .inr hhandler

/-- Whatever the answers, the program raises or does not end. -/
def NeverReturns (program : Program ρ ε scope α) : Prop := ∀ value, ¬ program.Returns value

theorem neverReturns_bind {program : Program ρ ε scope α} {rest : α → Program ρ ε scope β}
    (hrest : ∀ value, program.Returns value → (rest value).NeverReturns) :
    (program.bind rest).NeverReturns := by
  intro result hreturns
  obtain ⟨value, hvalue, hresult⟩ := returns_bind hreturns
  exact hrest value hvalue result hresult

theorem NeverReturns.bind {program : Program ρ ε scope α} (hnever : program.NeverReturns)
    (rest : α → Program ρ ε scope β) : (program.bind rest).NeverReturns :=
  neverReturns_bind fun value hvalue ↦ absurd hvalue (hnever value)

theorem NeverReturns.widen {program : Program ρ ε scope α} (hnever : program.NeverReturns)
    (hwider : ∀ op, scope op = true → wider op = true) : (program.widen hwider).NeverReturns :=
  fun value hreturns ↦ hnever value (returns_widen hreturns)

theorem NeverReturns.handle {program : Program ρ ε scope α} {handler : ε → Program ρ ε scope α}
    (hnever : program.NeverReturns) (hhandler : ∀ error, (handler error).NeverReturns) :
    (program.handle handler).NeverReturns := by
  intro value hreturns
  rcases returns_handle hreturns with hbody | ⟨error, herror⟩
  · exact hnever value hbody
  · exact hhandler error value herror

theorem neverReturns_raise (error : ε) : (raise error : Program ρ ε scope α).NeverReturns :=
  fun _ hreturns ↦ hreturns

/-! ### A program alone -/

variable {σ : Type}

/-- The program, alone on a state, ends with the result in the last state. -/
def Runs (step : σ → (op : ω) → Except ε (ρ op) → σ → Prop) :
    Program ρ ε scope α → σ → Except ε α → σ → Prop
  | done value, state, result, last => result = .ok value ∧ last = state
  | raise error, state, result, last => result = .error error ∧ last = state
  | call op _ next, state, result, last =>
    ∃ answer after, step state op answer after ∧ (next answer).Runs step after result last

/-- A sequence ends where its first part raised, or where its second part ended. -/
theorem runs_bind {step : σ → (op : ω) → Except ε (ρ op) → σ → Prop}
    {program : Program ρ ε scope α} {rest : α → Program ρ ε scope β} {state last : σ}
    {result : Except ε β} :
    (program.bind rest).Runs step state result last ↔
      (∃ error, program.Runs step state (.error error) last ∧ result = .error error) ∨
        ∃ value middle, program.Runs step state (.ok value) middle ∧
          (rest value).Runs step middle result last := by
  induction program generalizing state with
  | done value =>
    constructor
    · exact fun hruns ↦ .inr ⟨value, state, ⟨rfl, rfl⟩, hruns⟩
    · rintro (⟨error, ⟨herror, -⟩, -⟩ | ⟨other, middle, ⟨hvalue, rfl⟩, hruns⟩)
      · cases herror
      · exact Except.ok.inj hvalue ▸ hruns
  | raise error =>
    constructor
    · rintro ⟨rfl, rfl⟩
      exact .inl ⟨error, ⟨rfl, rfl⟩, rfl⟩
    · rintro (⟨other, ⟨herror, rfl⟩, rfl⟩ | ⟨value, middle, ⟨hvalue, -⟩, -⟩)
      · exact ⟨congrArg Except.error (Except.error.inj herror), rfl⟩
      · cases hvalue
  | call op hscope next ih =>
    simp only [bind, Runs, ih]
    constructor
    · rintro ⟨answer, after, hstep, ⟨error, hruns, hresult⟩ | ⟨value, middle, hruns, hrest⟩⟩
      · exact .inl ⟨error, ⟨answer, after, hstep, hruns⟩, hresult⟩
      · exact .inr ⟨value, middle, ⟨answer, after, hstep, hruns⟩, hrest⟩
    · rintro (⟨error, ⟨answer, after, hstep, hruns⟩, hresult⟩ |
        ⟨value, middle, ⟨answer, after, hstep, hruns⟩, hrest⟩)
      · exact ⟨answer, after, hstep, .inl ⟨error, hruns, hresult⟩⟩
      · exact ⟨answer, after, hstep, .inr ⟨value, middle, hruns, hrest⟩⟩

theorem runs_ask {step : σ → (op : ω) → Except ε (ρ op) → σ → Prop} {op : ω}
    {hscope : scope op = true} {state last : σ} {result : Except ε (ρ op)} :
    (ask op hscope : Program ρ ε scope (ρ op)).Runs step state result last ↔
      step state op result last := by
  constructor
  · rintro ⟨answer, after, hstep, hruns⟩
    cases answer with
    | ok value =>
      obtain ⟨rfl, rfl⟩ := hruns
      exact hstep
    | error error =>
      obtain ⟨rfl, rfl⟩ := hruns
      exact hstep
  · intro hstep
    refine ⟨result, last, hstep, ?_⟩
    cases result with
    | ok value => exact ⟨rfl, rfl⟩
    | error error => exact ⟨rfl, rfl⟩

theorem runs_widen {step : σ → (op : ω) → Except ε (ρ op) → σ → Prop}
    {hwider : ∀ op, scope op = true → wider op = true} {program : Program ρ ε scope α}
    {state last : σ} {result : Except ε α} :
    (program.widen hwider).Runs step state result last ↔
      program.Runs step state result last := by
  induction program generalizing state with
  | done value => rfl
  | raise error => rfl
  | call op hscope next ih => simp only [widen, Runs, ih]

/-- The result of a `try` statement is what its body ended with. -/
theorem runs_attempt {step : σ → (op : ω) → Except ε (ρ op) → σ → Prop}
    {program : Program ρ ε scope α} {state last : σ} {result : Except ε (Except ε α)} :
    program.attempt.Runs step state result last ↔
      ∃ inner, result = .ok inner ∧ program.Runs step state inner last := by
  induction program generalizing state with
  | done value =>
    constructor
    · rintro ⟨hresult, hlast⟩
      exact ⟨.ok value, hresult, rfl, hlast⟩
    · rintro ⟨inner, hresult, hinner, hlast⟩
      exact ⟨hinner ▸ hresult, hlast⟩
  | raise error =>
    constructor
    · rintro ⟨hresult, hlast⟩
      exact ⟨.error error, hresult, rfl, hlast⟩
    · rintro ⟨inner, hresult, hinner, hlast⟩
      exact ⟨hinner ▸ hresult, hlast⟩
  | call op hscope next ih =>
    constructor
    · rintro ⟨answer, after, hstep, hruns⟩
      obtain ⟨inner, hresult, hinner⟩ := (ih answer).mp hruns
      exact ⟨inner, hresult, answer, after, hstep, hinner⟩
    · rintro ⟨inner, hresult, answer, after, hstep, hinner⟩
      exact ⟨answer, after, hstep, (ih answer).mpr ⟨inner, hresult, hinner⟩⟩

/-- What the steps preserve holds where the program ends. -/
theorem Runs.invariant {step : σ → (op : ω) → Except ε (ρ op) → σ → Prop} {holds : σ → Prop}
    (hkeeps : ∀ state op answer after, holds state → step state op answer after → holds after)
    {program : Program ρ ε scope α} {state last : σ} {result : Except ε α}
    (hruns : program.Runs step state result last) (hholds : holds state) : holds last := by
  induction program generalizing state with
  | done value => exact hruns.2 ▸ hholds
  | raise error => exact hruns.2 ▸ hholds
  | call op hscope next ih =>
    obtain ⟨answer, after, hstep, hlater⟩ := hruns
    exact ih answer hlater (hkeeps _ _ _ _ hholds hstep)

theorem Runs.mono {step wider : σ → (op : ω) → Except ε (ρ op) → σ → Prop}
    (hwider : ∀ state op answer after, step state op answer after → wider state op answer after)
    {program : Program ρ ε scope α} {state last : σ} {result : Except ε α}
    (hruns : program.Runs step state result last) : program.Runs wider state result last := by
  induction program generalizing state with
  | done value => exact hruns
  | raise error => exact hruns
  | call op hscope next ih =>
    obtain ⟨answer, after, hstep, hlater⟩ := hruns
    exact ⟨answer, after, hwider _ _ _ _ hstep, ih answer hlater⟩

theorem NeverReturns.runs {step : σ → (op : ω) → Except ε (ρ op) → σ → Prop}
    {program : Program ρ ε scope α} (hnever : program.NeverReturns) {state last : σ}
    {result : Except ε α} (hruns : program.Runs step state result last) :
    ∃ error, result = .error error := by
  induction program generalizing state with
  | done value => exact absurd rfl (hnever value)
  | raise error => exact ⟨error, hruns.1⟩
  | call op hscope next ih =>
    obtain ⟨answer, after, -, hlater⟩ := hruns
    exact ih answer (fun value hreturns ↦ hnever value ⟨answer, hreturns⟩) hlater

/-! ### Raising exactly when -/

section RaisesExactly

variable {step : σ → (op : ω) → Except ε (ρ op) → σ → Prop} {good pre : σ → Prop}

/-- Started in a good state that meets `pre`, the program raises exactly when the state it ends in
is no longer good; otherwise what it returns and where it ends meet `post`. -/
def RaisesExactly (step : σ → (op : ω) → Except ε (ρ op) → σ → Prop) (good pre : σ → Prop)
    (post : α → σ → Prop) (program : Program ρ ε scope α) : Prop :=
  ∀ state result last, pre state → good state → program.Runs step state result last →
    (∃ value, result = .ok value ∧ post value last ∧ good last) ∨
      (∃ error, result = .error error) ∧ ¬ good last

theorem raisesExactly_done {post : α → σ → Prop} (value : α)
    (hpost : ∀ state, pre state → post value state) :
    RaisesExactly step good pre post (done value : Program ρ ε scope α) := by
  rintro state result last hpre hgood ⟨rfl, rfl⟩
  exact .inl ⟨value, rfl, hpost _ hpre, hgood⟩

theorem RaisesExactly.bind {middle : α → σ → Prop} {post : β → σ → Prop}
    {program : Program ρ ε scope α} {rest : α → Program ρ ε scope β}
    (hfirst : RaisesExactly step good pre middle program)
    (hrest : ∀ value, RaisesExactly step good (middle value) post (rest value)) :
    RaisesExactly step good pre post (program.bind rest) := by
  intro state result last hpre hgood hruns
  rcases runs_bind.mp hruns with ⟨error, herror, rfl⟩ | ⟨value, mid, hvalue, hlater⟩
  · rcases hfirst _ _ _ hpre hgood herror with ⟨value, hvalue, -⟩ | ⟨-, hbad⟩
    · cases hvalue
    · exact .inr ⟨⟨error, rfl⟩, hbad⟩
  · rcases hfirst _ _ _ hpre hgood hvalue with ⟨found, hfound, hmiddle, hmid⟩ | ⟨⟨error, herror⟩, -⟩
    · obtain rfl := Except.ok.inj hfound
      exact hrest value _ _ _ hmiddle hmid hlater
    · cases herror

theorem RaisesExactly.mono {weaker : σ → Prop} {post wider : α → σ → Prop}
    {program : Program ρ ε scope α} (hprogram : RaisesExactly step good weaker post program)
    (hpre : ∀ state, pre state → weaker state)
    (hpost : ∀ value state, post value state → wider value state) :
    RaisesExactly step good pre wider program := by
  intro state result last hstate hgood hruns
  rcases hprogram _ _ _ (hpre _ hstate) hgood hruns with ⟨value, hvalue, hmeets, hlast⟩ | hraised
  · exact .inl ⟨value, hvalue, hpost _ _ hmeets, hlast⟩
  · exact .inr hraised

/-- A block under a handler that loses nothing good raises nothing. -/
theorem raisesExactly_attempt {program : Program ρ ε scope α} {post : Except ε α → σ → Prop}
    (hkeeps : ∀ state result last, pre state → good state → program.Runs step state result last →
      post result last ∧ good last) :
    RaisesExactly step good pre post program.attempt := by
  intro state result last hpre hgood hruns
  obtain ⟨inner, rfl, hinner⟩ := runs_attempt.mp hruns
  exact .inl ⟨inner, rfl, hkeeps _ _ _ hpre hgood hinner⟩

end RaisesExactly

/-! ### A program cut short -/

/-- The program, started in a state, comes to perform an operation in the last state; `rest` is how
it would go on. -/
inductive Reaches (step : σ → (op : ω) → Except ε (ρ op) → σ → Prop) (op : ω)
    (rest : Except ε (ρ op) → Program ρ ε scope α) (last : σ) : Program ρ ε scope α → σ → Prop
  | here (hscope : scope op = true) : Reaches step op rest last (call op hscope rest) last
  | later {other : ω} {hscope : scope other = true}
    {next : Except ε (ρ other) → Program ρ ε scope α} {state after : σ}
    (answer : Except ε (ρ other)) (hstep : step state other answer after)
    (hreaches : Reaches step op rest last (next answer) after) :
    Reaches step op rest last (call other hscope next) state

section Reaches

variable {step : σ → (op : ω) → Except ε (ρ op) → σ → Prop} {op : ω} {state last : σ}

theorem Reaches.scope_eq {rest : Except ε (ρ op) → Program ρ ε scope α}
    {program : Program ρ ε scope α} (hreaches : Reaches step op rest last program state) :
    scope op = true := by
  induction hreaches with
  | here hscope => exact hscope
  | later _ _ _ ih => exact ih

/-- What the steps preserve holds where the program is cut short. -/
theorem Reaches.invariant {rest : Except ε (ρ op) → Program ρ ε scope α}
    {program : Program ρ ε scope α} {holds : σ → Prop}
    (hkeeps : ∀ state op answer after, holds state → step state op answer after → holds after)
    (hreaches : Reaches step op rest last program state) (hholds : holds state) : holds last := by
  induction hreaches with
  | here => exact hholds
  | later answer hstep _ ih => exact ih (hkeeps _ _ _ _ hholds hstep)

/-- What the program may still return, it may return from the start. -/
theorem Reaches.returns {rest : Except ε (ρ op) → Program ρ ε scope α}
    {program : Program ρ ε scope α} (hreaches : Reaches step op rest last program state)
    {answer : Except ε (ρ op)} {result : α} (hreturns : (rest answer).Returns result) :
    program.Returns result := by
  induction hreaches with
  | here => exact ⟨answer, hreturns⟩
  | later other _ _ ih => exact ⟨other, ih⟩

/-- A program that never returns does not return from where it is cut short either. -/
theorem Reaches.neverReturns {rest : Except ε (ρ op) → Program ρ ε scope α}
    {program : Program ρ ε scope α} (hreaches : Reaches step op rest last program state)
    (hnever : program.NeverReturns) (answer : Except ε (ρ op)) : (rest answer).NeverReturns :=
  fun value hreturns ↦ hnever value (hreaches.returns hreturns)

/-- A sequence is cut short in its first part, or in its second after the first returned. -/
theorem reaches_bind {program : Program ρ ε scope α} {next : α → Program ρ ε scope β}
    {rest : Except ε (ρ op) → Program ρ ε scope β}
    (hreaches : Reaches step op rest last (program.bind next) state) :
    (∃ first, Reaches step op first last program state ∧
        rest = fun answer ↦ (first answer).bind next) ∨
      ∃ value middle, program.Runs step state (.ok value) middle ∧
        Reaches step op rest last (next value) middle := by
  induction program generalizing state with
  | done value => exact .inr ⟨value, state, ⟨rfl, rfl⟩, hreaches⟩
  | raise error => cases hreaches
  | call other hscope continued ih =>
    cases hreaches with
    | here => exact .inl ⟨continued, .here hscope, rfl⟩
    | later answer hstep hlater =>
      rcases ih answer hlater with ⟨first, hfirst, hrest⟩ | ⟨value, middle, hruns, hnext⟩
      · exact .inl ⟨first, .later answer hstep hfirst, hrest⟩
      · exact .inr ⟨value, middle, ⟨answer, _, hstep, hruns⟩, hnext⟩

/-- `try … except` followed by what handles both ends. -/
theorem reaches_attempt {program : Program ρ ε scope α}
    {next : Except ε α → Program ρ ε scope β} {rest : Except ε (ρ op) → Program ρ ε scope β}
    (hreaches : Reaches step op rest last (program.attempt.bind next) state) :
    (∃ first, Reaches step op first last program state ∧
        rest = fun answer ↦ (first answer).attempt.bind next) ∨
      ∃ result middle, program.Runs step state result middle ∧
        Reaches step op rest last (next result) middle := by
  induction program generalizing state with
  | done value => exact .inr ⟨.ok value, state, ⟨rfl, rfl⟩, hreaches⟩
  | raise error => exact .inr ⟨.error error, state, ⟨rfl, rfl⟩, hreaches⟩
  | call other hscope continued ih =>
    cases hreaches with
    | here => exact .inl ⟨continued, .here hscope, rfl⟩
    | later answer hstep hlater =>
      rcases ih answer hlater with ⟨first, hfirst, hrest⟩ | ⟨value, middle, hruns, hnext⟩
      · exact .inl ⟨first, .later answer hstep hfirst, hrest⟩
      · exact .inr ⟨value, middle, ⟨answer, _, hstep, hruns⟩, hnext⟩

theorem reaches_widen {hwider : ∀ op, scope op = true → wider op = true}
    {program : Program ρ ε scope α} {rest : Except ε (ρ op) → Program ρ ε wider α}
    (hreaches : Reaches step op rest last (program.widen hwider) state) :
    ∃ first, Reaches step op first last program state ∧
      rest = fun answer ↦ (first answer).widen hwider := by
  induction program generalizing state with
  | done value => cases hreaches
  | raise error => cases hreaches
  | call other hscope continued ih =>
    cases hreaches with
    | here => exact ⟨continued, .here hscope, rfl⟩
    | later answer hstep hlater =>
      obtain ⟨first, hfirst, hrest⟩ := ih answer hlater
      exact ⟨first, .later answer hstep hfirst, hrest⟩

end Reaches

end Program

/-- What each of several threads over a shared state may assume and must promise. -/
structure Protocol {ω : Type} (ι : Type) (ρ : ω → Type) (ε σ : Type) where
  /-- A thread performs an operation in a state, with its answer and the state after it. -/
  step : ι → σ → (op : ω) → Except ε (ρ op) → σ → Prop
  inv : σ → Prop
  rely : ι → σ → σ → Prop
  guar : ι → σ → σ → Prop
  rely_refl : ∀ thread state, rely thread state state
  rely_trans : ∀ thread first second third, rely thread first second →
    rely thread second third → rely thread first third
  guar_rely : ∀ thread other before after, thread ≠ other → guar thread before after →
    rely other before after

namespace Program

variable {ω ι : Type} {ρ : ω → Type} {ε σ : Type} {scope wider : ω → Bool} {α β : Type}

/-- The weakest precondition of a program of one thread under a protocol. -/
def wp (protocol : Protocol ι ρ ε σ) (thread : ι) (post : Except ε α → σ → Prop) :
    Program ρ ε scope α → σ → Prop
  | done value, state => ∀ later, protocol.rely thread state later → protocol.inv later →
    post (.ok value) later
  | raise error, state => ∀ later, protocol.rely thread state later → protocol.inv later →
    post (.error error) later
  | call op _ next, state => ∀ later, protocol.rely thread state later → protocol.inv later →
    ∀ answer after, protocol.step thread later op answer after →
      protocol.inv after ∧ protocol.guar thread later after ∧
        (next answer).wp protocol thread post after

variable {protocol : Protocol ι ρ ε σ} {thread : ι} {post : Except ε α → σ → Prop}
  {program : Program ρ ε scope α} {state later : σ}

/-- A weakest precondition survives interference. -/
theorem wp_stable (hwp : program.wp protocol thread post state)
    (hrely : protocol.rely thread state later) : program.wp protocol thread post later := by
  cases program with
  | done value =>
    intro next hnext
    exact hwp next (protocol.rely_trans _ _ _ _ hrely hnext)
  | raise error =>
    intro next hnext
    exact hwp next (protocol.rely_trans _ _ _ _ hrely hnext)
  | call op hscope next =>
    intro next hnext
    exact hwp next (protocol.rely_trans _ _ _ _ hrely hnext)

/-- A weakest precondition is only used in states that interference can reach. -/
theorem wp_of_later
    (hwp : ∀ later, protocol.rely thread state later → protocol.inv later →
      program.wp protocol thread post later) : program.wp protocol thread post state := by
  have hself : ∀ later, protocol.rely thread later later := protocol.rely_refl thread
  cases program with
  | done value =>
    intro later hrely hinv
    exact hwp later hrely hinv later (hself later) hinv
  | raise error =>
    intro later hrely hinv
    exact hwp later hrely hinv later (hself later) hinv
  | call op hscope next =>
    intro later hrely hinv
    exact hwp later hrely hinv later (hself later) hinv

theorem wp_mono {weaker : Except ε α → σ → Prop} (hwp : program.wp protocol thread post state)
    (hweaker : ∀ result later, protocol.inv later → post result later → weaker result later) :
    program.wp protocol thread weaker state := by
  induction program generalizing state with
  | done value =>
    intro later hrely hinv
    exact hweaker _ _ hinv (hwp later hrely hinv)
  | raise error =>
    intro later hrely hinv
    exact hweaker _ _ hinv (hwp later hrely hinv)
  | call op hscope next ih =>
    intro later hrely hinv answer after hstep
    obtain ⟨hafter, hguar, hrest⟩ := hwp later hrely hinv answer after hstep
    exact ⟨hafter, hguar, ih answer hrest⟩

theorem wp_done {value : α}
    (hpost : ∀ later, protocol.rely thread state later → protocol.inv later →
      post (.ok value) later) :
    (done value : Program ρ ε scope α).wp protocol thread post state :=
  hpost

theorem wp_raise {error : ε}
    (hpost : ∀ later, protocol.rely thread state later → protocol.inv later →
      post (.error error) later) :
    (raise error : Program ρ ε scope α).wp protocol thread post state :=
  hpost

/-- Sequencing: the first part establishes what the second needs, or its exception the end. -/
theorem wp_bind {post : Except ε β → σ → Prop} {rest : α → Program ρ ε scope β}
    (hwp : program.wp protocol thread
      (fun result later ↦ match result with
        | .ok value => (rest value).wp protocol thread post later
        | .error error => post (.error error) later) state) :
    (program.bind rest).wp protocol thread post state := by
  induction program generalizing state with
  | done value => exact wp_of_later hwp
  | raise error =>
    intro later hrely hinv
    exact hwp later hrely hinv
  | call op hscope next ih =>
    intro later hrely hinv answer after hstep
    obtain ⟨hafter, hguar, hrest⟩ := hwp later hrely hinv answer after hstep
    exact ⟨hafter, hguar, ih answer hrest⟩

/-- `try … except`: what the body raises is what the handler starts from. -/
theorem wp_handle {handler : ε → Program ρ ε scope α}
    (hwp : program.wp protocol thread
      (fun result later ↦ match result with
        | .ok value => post (.ok value) later
        | .error error => (handler error).wp protocol thread post later) state) :
    (program.handle handler).wp protocol thread post state := by
  induction program generalizing state with
  | done value =>
    intro later hrely hinv
    exact hwp later hrely hinv
  | raise error => exact wp_of_later hwp
  | call op hscope next ih =>
    intro later hrely hinv answer after hstep
    obtain ⟨hafter, hguar, hrest⟩ := hwp later hrely hinv answer after hstep
    exact ⟨hafter, hguar, ih answer hrest⟩

theorem wp_attempt {post : Except ε (Except ε α) → σ → Prop}
    (hwp : program.wp protocol thread (fun result later ↦ post (.ok result) later) state) :
    program.attempt.wp protocol thread post state := by
  unfold attempt
  induction program generalizing state with
  | done value => exact hwp
  | raise error => exact hwp
  | call op hscope next ih =>
    intro later hrely hinv answer after hstep
    obtain ⟨hafter, hguar, hrest⟩ := hwp later hrely hinv answer after hstep
    exact ⟨hafter, hguar, ih answer hrest⟩

/-- Sequencing with a named condition in the middle. -/
theorem wp_seq (middle : Except ε α → σ → Prop) {post : Except ε β → σ → Prop}
    {rest : α → Program ρ ε scope β} (hwp : program.wp protocol thread middle state)
    (hok : ∀ value later, protocol.inv later → middle (.ok value) later →
      (rest value).wp protocol thread post later)
    (herror : ∀ error later, protocol.inv later → middle (.error error) later →
      post (.error error) later) :
    (program.bind rest).wp protocol thread post state := by
  refine wp_bind (wp_mono hwp fun result later hinv hmiddle ↦ ?_)
  cases result with
  | ok value => exact hok value later hinv hmiddle
  | error error => exact herror error later hinv hmiddle

/-- `try … except` with a named condition in the middle. -/
theorem wp_try (middle : Except ε α → σ → Prop) {post : Except ε β → σ → Prop}
    {rest : Except ε α → Program ρ ε scope β} (hwp : program.wp protocol thread middle state)
    (hrest : ∀ result later, protocol.inv later → middle result later →
      (rest result).wp protocol thread post later) :
    (program.attempt.bind rest).wp protocol thread post state :=
  wp_bind (wp_attempt (wp_mono hwp hrest))

/-- One operation: each of its steps keeps the invariant and the promise and ends in a
postcondition that interference cannot break. -/
theorem wp_ask {op : ω} {hscope : scope op = true} {post : Except ε (ρ op) → σ → Prop}
    (hstep : ∀ before answer after, protocol.rely thread state before → protocol.inv before →
      protocol.step thread before op answer after →
        protocol.inv after ∧ protocol.guar thread before after ∧
          ∀ later, protocol.rely thread after later → protocol.inv later → post answer later) :
    (ask op hscope : Program ρ ε scope (ρ op)).wp protocol thread post state := by
  intro before hrely hinv answer after hdone
  obtain ⟨hafter, hguar, hpost⟩ := hstep before answer after hrely hinv hdone
  refine ⟨hafter, hguar, ?_⟩
  cases answer with
  | ok value => exact hpost
  | error error => exact hpost

theorem wp_widen {hwider : ∀ op, scope op = true → wider op = true}
    (hwp : program.wp protocol thread post state) :
    (program.widen hwider).wp protocol thread post state := by
  induction program generalizing state with
  | done value => exact hwp
  | raise error => exact hwp
  | call op hscope next ih =>
    intro later hrely hinv answer after hstep
    obtain ⟨hafter, hguar, hrest⟩ := hwp later hrely hinv answer after hstep
    exact ⟨hafter, hguar, ih answer hrest⟩

/-- Every step of an operation keeps the invariant, the promise and an assertion. -/
def Keeps (protocol : Protocol ι ρ ε σ) (thread : ι) (assertion : σ → Prop) (op : ω) : Prop :=
  ∀ before answer after, protocol.inv before → assertion before →
    protocol.step thread before op answer after →
      protocol.inv after ∧ protocol.guar thread before after ∧ assertion after

/-- A program whose scope keeps an assertion keeps it, whatever the program is. -/
theorem wp_of_scope {assertion : σ → Prop}
    (hstable : ∀ before after, protocol.rely thread before after → assertion before →
      assertion after)
    (hscope : ∀ op, scope op = true → Keeps protocol thread assertion op)
    (hstart : assertion state) :
    program.wp protocol thread (fun _ later ↦ assertion later) state := by
  induction program generalizing state with
  | done value => exact fun later hrely _ ↦ hstable _ _ hrely hstart
  | raise error => exact fun later hrely _ ↦ hstable _ _ hrely hstart
  | call op hop next ih =>
    intro later hrely hinv answer after hstep
    have hlater : assertion later := hstable _ _ hrely hstart
    obtain ⟨hafter, hguar, hkept⟩ := hscope op hop later answer after hinv hlater hstep
    exact ⟨hafter, hguar, ih answer hkept⟩

/-! ### Crews of threads -/

/-- The shared state satisfies the invariant, and every thread may run on from it. -/
def Sound (protocol : Protocol ι ρ ε σ) (threads : ι → Option (Program ρ ε scope α))
    (state : σ) : Prop :=
  protocol.inv state ∧ ∀ thread program, threads thread = some program →
    program.wp protocol thread (fun _ _ ↦ True) state

variable {threads : ι → Option (Program ρ ε scope α)} {after : σ}

/-- A step from outside the crew that every thread may rely on. -/
theorem Sound.outside (hsound : Sound protocol threads state) (hinv : protocol.inv after)
    (hrely : ∀ thread, protocol.rely thread state after) : Sound protocol threads after :=
  ⟨hinv, fun thread program hprogram ↦ wp_stable (hsound.2 thread program hprogram) (hrely thread)⟩

/-- One thread performs its next operation. -/
theorem Sound.step [DecidableEq ι] {op : ω} {hscope : scope op = true}
    {next : Except ε (ρ op) → Program ρ ε scope α} {answer : Except ε (ρ op)}
    (hsound : Sound protocol threads state) (hthread : threads thread = some (call op hscope next))
    (hstep : protocol.step thread state op answer after) :
    Sound protocol (Function.update threads thread (some (next answer))) after := by
  have hwp := hsound.2 thread _ hthread
  obtain ⟨hinv, hguar, hrest⟩ := hwp state (protocol.rely_refl _ _) hsound.1 answer after hstep
  refine ⟨hinv, fun other program hprogram ↦ ?_⟩
  by_cases hother : other = thread
  · subst hother
    rw [Function.update_self] at hprogram
    exact Option.some.inj hprogram ▸ hrest
  · rw [Function.update_of_ne hother] at hprogram
    have hrely := protocol.guar_rely thread other state after (fun heq ↦ hother heq.symm) hguar
    exact wp_stable (hsound.2 other program hprogram) hrely

/-- A thread disappears. -/
theorem Sound.remove [DecidableEq ι] (hsound : Sound protocol threads state) :
    Sound protocol (Function.update threads thread none) state := by
  refine ⟨hsound.1, fun other program hprogram ↦ ?_⟩
  by_cases hother : other = thread
  · subst hother
    rw [Function.update_self] at hprogram
    cases hprogram
  · rw [Function.update_of_ne hother] at hprogram
    exact hsound.2 other program hprogram

/-- A thread starts with a program that may run from the current state. -/
theorem Sound.add [DecidableEq ι] {program : Program ρ ε scope α}
    (hsound : Sound protocol threads state)
    (hwp : program.wp protocol thread (fun _ _ ↦ True) state) :
    Sound protocol (Function.update threads thread (some program)) state := by
  refine ⟨hsound.1, fun other started hstarted ↦ ?_⟩
  by_cases hother : other = thread
  · subst hother
    rw [Function.update_self] at hstarted
    exact Option.some.inj hstarted ▸ hwp
  · rw [Function.update_of_ne hother] at hstarted
    exact hsound.2 other started hstarted

end Program

end AgentRuntime.Library

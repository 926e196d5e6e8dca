import Mathlib.Data.Fintype.Basic
import Mathlib.Data.List.Lex
import Mathlib.Data.List.Nodup
import Mathlib.Data.Set.Finite.Basic
import Mathlib.Logic.Relation
import Mathlib.Order.WellFounded

/-!
# Schedules of finitely many jobs

A job needs other jobs to be done before it. A schedule of a list of jobs is a rearrangement in
which every job stands after all it needs. A greedy schedule takes, at every point, a job of least
key among those that are eligible; where keys tell jobs apart it is the lexicographically least
schedule. A finite set of jobs has a schedule exactly when no job needs itself through others: an
acyclic rest always has an eligible job.
-/

set_option autoImplicit false
set_option relaxedAutoImplicit false

namespace AgentRuntime.Library

variable {α : Type} {needs : α → α → Prop} {jobs : List α}

/-- No job needs itself, directly or through others. -/
def Acyclic (needs : α → α → Prop) : Prop := ∀ job, ¬ Relation.TransGen needs job job

/-- The job is not done yet, and all it needs is. -/
structure Eligible (needs : α → α → Prop) (jobs done : List α) (job : α) : Prop where
  mem : job ∈ jobs
  open_ : job ∉ done
  ready : ∀ other, needs job other → other ∈ done

/-- A rearrangement of the jobs in which every job stands after all it needs. -/
structure IsSchedule (needs : α → α → Prop) (jobs order : List α) : Prop where
  perm : order.Perm jobs
  after : ∀ before job rest, order = before ++ job :: rest →
    ∀ other, needs job other → other ∈ before

/-- Each job of the list was eligible when its turn came, and none before it in key was. -/
def Greedy (needs : α → α → Prop) (jobs : List α) (key : α → ℕ) (order : List α) : Prop :=
  ∀ before job rest, order = before ++ job :: rest →
    Eligible needs jobs before job ∧ ∀ other, Eligible needs jobs before other → key job ≤ key other

theorem greedy_nil (key : α → ℕ) : Greedy needs jobs key [] := by
  intro before job rest heq
  cases before <;> cases heq

/-- A greedy list grows by an eligible job of least key. -/
theorem Greedy.concat {key : α → ℕ} {order : List α} (hgreedy : Greedy needs jobs key order)
    {job : α} (heligible : Eligible needs jobs order job)
    (hleast : ∀ other, Eligible needs jobs order other → key job ≤ key other) :
    Greedy needs jobs key (order ++ [job]) := by
  intro before last rest heq
  rcases List.eq_nil_or_concat rest with rfl | ⟨front, final, rfl⟩
  · obtain ⟨rfl, hlast⟩ := List.append_inj' heq rfl
    obtain rfl := (List.cons.inj hlast).1
    exact ⟨heligible, hleast⟩
  · have hsplit : order ++ [job] = (before ++ last :: front) ++ [final] := by
      rw [heq, List.concat_eq_append, List.append_assoc, List.cons_append]
    obtain ⟨horder, -⟩ := List.append_inj' hsplit rfl
    exact hgreedy before last front horder

/-- Nothing stands twice in a greedy list, and nothing but jobs. -/
theorem Greedy.nodup {key : α → ℕ} {order : List α} (hgreedy : Greedy needs jobs key order) :
    order.Nodup ∧ order ⊆ jobs := by
  induction order using List.reverseRecOn with
  | nil => exact ⟨List.nodup_nil, List.nil_subset _⟩
  | append_singleton order job ih =>
    have hinit : Greedy needs jobs key order := by
      intro before last rest heq
      refine hgreedy before last (rest ++ [job]) ?_
      rw [heq, List.append_assoc, List.cons_append]
    obtain ⟨heligible, -⟩ := hgreedy order job [] rfl
    obtain ⟨hnodup, hsubset⟩ := ih hinit
    refine ⟨?_, List.append_subset.mpr ⟨hsubset, fun other hmem ↦ ?_⟩⟩
    · rw [← List.concat_eq_append, List.nodup_concat]
      exact ⟨heligible.open_, hnodup⟩
    · exact List.mem_singleton.mp hmem ▸ heligible.mem

/-- A greedy list of all jobs is a schedule. -/
theorem Greedy.isSchedule {key : α → ℕ} {order : List α} (hgreedy : Greedy needs jobs key order)
    (hnodup : jobs.Nodup) (hall : jobs ⊆ order) : IsSchedule needs jobs order where
  perm := by
    obtain ⟨horder, hsubset⟩ := hgreedy.nodup
    exact (List.perm_ext_iff_of_nodup horder hnodup).mpr fun job ↦ ⟨@hsubset job, @hall job⟩
  after before job rest heq := (hgreedy before job rest heq).1.ready

/-- Among the schedules that share a beginning, a greedy one goes on with the least keys. -/
theorem Greedy.le_from {key : α → ℕ} {order other : List α}
    (hgreedy : Greedy needs jobs key order) (hinjective : Set.InjOn key {job | job ∈ jobs})
    (hnodup : jobs.Nodup) (hother : IsSchedule needs jobs other) (rest : List α) :
    ∀ before tail, order = before ++ rest → other = before ++ tail →
      rest.length = tail.length → rest.map key ≤ tail.map key := by
  induction rest with
  | nil =>
    intro before tail _ _ hlength
    rw [List.length_nil, eq_comm, List.length_eq_zero_iff] at hlength
    rw [hlength]
  | cons job rest ih =>
    intro before tail horder htail hlength
    cases tail with
    | nil => cases hlength
    | cons next tail =>
      obtain ⟨heligible, hleast⟩ := hgreedy before job rest horder
      have hnodupOther : (before ++ next :: tail).Nodup :=
        htail ▸ hother.perm.nodup_iff.mpr hnodup
      have hnext : Eligible needs jobs before next := by
        refine ⟨hother.perm.mem_iff.mp ?_, fun hmem ↦ ?_, hother.after before next tail htail⟩
        · rw [htail]
          exact List.mem_append_right _ List.mem_cons_self
        · exact (List.disjoint_of_nodup_append hnodupOther) hmem List.mem_cons_self
      rcases (hleast next hnext).lt_or_eq with hless | hsame
      · rw [List.map_cons, List.map_cons]
        exact le_of_lt (List.Lex.rel hless)
      · obtain rfl : job = next := hinjective heligible.mem hnext.mem hsame
        have hrest := ih (before ++ [job]) tail (by rw [horder, List.append_cons])
          (by rw [htail, List.append_cons]) (Nat.succ.inj hlength)
        rw [List.map_cons, List.map_cons]
        exact List.cons_le_cons _ hrest

/-- A greedy schedule is the lexicographically least one. -/
theorem Greedy.le {key : α → ℕ} {order other : List α} (hgreedy : Greedy needs jobs key order)
    (hinjective : Set.InjOn key {job | job ∈ jobs}) (hnodup : jobs.Nodup) (hall : jobs ⊆ order)
    (hother : IsSchedule needs jobs other) : order.map key ≤ other.map key := by
  have hlength : order.length = other.length :=
    (hgreedy.isSchedule hnodup hall).perm.length_eq.trans hother.perm.length_eq.symm
  exact hgreedy.le_from hinjective hnodup hother order [] other rfl rfl hlength

/-- As long as acyclic jobs are left, one of them is eligible. -/
theorem exists_eligible (hacyclic : Acyclic needs) (hknown : ∀ job ∈ jobs, ∀ other,
    needs job other → other ∈ jobs) {done : List α} (hleft : ¬ jobs ⊆ done) :
    ∃ job, Eligible needs jobs done job := by
  classical
  -- the jobs that are left, finitely many, with "is needed by" as a strict order
  let Left : Type := { job // job ∈ jobs ∧ job ∉ done }
  have hfinite : Finite Left :=
    Set.Finite.subset (List.finite_toSet jobs) fun job (hjob : job ∈ jobs ∧ job ∉ done) ↦ hjob.1
  let behind (left right : Left) : Prop := Relation.TransGen needs right.1 left.1
  have htrans : IsTrans Left behind := ⟨fun _ _ _ hfirst hsecond ↦ hsecond.trans hfirst⟩
  have hirrefl : Std.Irrefl behind := ⟨fun job ↦ hacyclic job.1⟩
  have hwell : WellFounded behind := Finite.wellFounded_of_trans_of_irrefl behind
  obtain ⟨job, hjob, hopen⟩ : ∃ job ∈ jobs, job ∉ done := by
    by_contra hnone
    refine hleft fun job hjob ↦ ?_
    by_contra hopen
    exact hnone ⟨job, hjob, hopen⟩
  obtain ⟨least, -, hleast⟩ := hwell.has_min Set.univ ⟨⟨job, hjob, hopen⟩, trivial⟩
  refine ⟨least.1, least.2.1, least.2.2, fun other hneeds ↦ ?_⟩
  by_contra hother
  exact hleast ⟨other, hknown least.1 least.2.1 other hneeds, hother⟩ trivial
    (Relation.TransGen.single hneeds)

/-- Jobs that can be scheduled are acyclic. -/
theorem IsSchedule.acyclic {order : List α} (hschedule : IsSchedule needs jobs order)
    (hnodup : jobs.Nodup) (hknown : ∀ job other, needs job other → job ∈ jobs ∧ other ∈ jobs) :
    Acyclic needs := by
  classical
  have horder : order.Nodup := hschedule.perm.nodup_iff.mpr hnodup
  have hearlier : ∀ job other, needs job other → order.idxOf other < order.idxOf job := by
    intro job other hneeds
    obtain ⟨before, rest, hsplit⟩ :=
      List.append_of_mem (hschedule.perm.mem_iff.mpr (hknown job other hneeds).1)
    have hbefore := hschedule.after before job rest hsplit other hneeds
    have hopen : job ∉ before := by
      intro hmem
      rw [hsplit] at horder
      exact (List.disjoint_of_nodup_append horder) hmem List.mem_cons_self
    rw [hsplit, List.idxOf_append_of_mem hbefore, List.idxOf_append_of_notMem hopen]
    have hlt : before.idxOf other < before.length := List.idxOf_lt_length_iff.mpr hbefore
    omega
  have hchain : ∀ job other, Relation.TransGen needs job other →
      order.idxOf other < order.idxOf job := by
    intro job other hpath
    induction hpath with
    | single hneeds => exact hearlier _ _ hneeds
    | tail _ hneeds ih => exact (hearlier _ _ hneeds).trans ih
  exact fun job hpath ↦ lt_irrefl _ (hchain job job hpath)

end AgentRuntime.Library

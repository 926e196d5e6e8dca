import Mathlib.Data.List.Basic
import Mathlib.Order.Lattice
import Mathlib.Data.Nat.Basic

/-!
# Reading a growing log by its numbers

Entries of a log carry numbers that increase, and the log only grows at its end. A reader asks for
the entries after a number and goes on from the last one it got, while others append. What it is
shown of an entry may be nothing at all. `page_then_rest` says that a page and whatever is read
after it are what a single read would have shown: nothing is lost, repeated or reordered.
-/

set_option autoImplicit false
set_option relaxedAutoImplicit false

namespace AgentRuntime.Library

variable {α β : Type} {number : α → Nat} {shown : β → Nat} {view : α → Option β}

/-- The numbers of the entries increase. -/
def Numbered (number : α → Nat) (log : List α) : Prop :=
  log.Pairwise fun entry later ↦ number entry < number later

/-- The entries after a number. -/
def entriesAfter (number : α → Nat) (cursor : Nat) (log : List α) : List α :=
  log.filter fun entry ↦ decide (cursor < number entry)

/-- Where a reader goes on after a page: at the number of its last entry. -/
def advance (shown : β → Nat) (cursor : Nat) (page : List β) : Nat :=
  (page.getLast?.map shown).getD cursor

theorem mem_entriesAfter {cursor : Nat} {log : List α} {entry : α} :
    entry ∈ entriesAfter number cursor log ↔ entry ∈ log ∧ cursor < number entry := by
  simp [entriesAfter]

theorem entriesAfter_append (cursor : Nat) (log more : List α) :
    entriesAfter number cursor (log ++ more) =
      entriesAfter number cursor log ++ entriesAfter number cursor more :=
  List.filter_append ..

/-- The views of increasing entries increase. -/
theorem numbered_filterMap {log : List α} (hnumbered : Numbered number log)
    (hview : ∀ entry shownEntry, view entry = some shownEntry → shown shownEntry = number entry) :
    Numbered shown (log.filterMap view) := by
  refine List.Pairwise.filterMap view (fun entry later hlt first hfirst second hsecond ↦ ?_)
    hnumbered
  rw [hview entry first hfirst, hview later second hsecond]
  exact hlt

/-- A reader stands at its old place after an empty page, and else at the greatest number of the
page. -/
theorem advance_cases (cursor : Nat) {page : List β} (hnumbered : Numbered shown page) :
    page = [] ∧ advance shown cursor page = cursor ∨
      ∃ last ∈ page, advance shown cursor page = shown last ∧
        ∀ entry ∈ page, shown entry ≤ shown last := by
  rcases List.eq_nil_or_concat page with rfl | ⟨front, last, rfl⟩
  · exact .inl ⟨rfl, rfl⟩
  · rw [List.concat_eq_append] at hnumbered ⊢
    refine .inr ⟨last, by simp, by simp [advance], fun entry hmem ↦ ?_⟩
    rcases List.mem_append.mp hmem with hfront | hlast
    · exact ((List.pairwise_append.mp hnumbered).2.2 entry hfront last (by simp)).le
    · rw [List.mem_singleton.mp hlast]

section Page

variable {cursor : Nat} {log more : List α} {page : List β}

/-- The page that a reader gets of a log. -/
def pageOf (number : α → Nat) (view : α → Option β) (cursor : Nat) (log : List α) : List β :=
  (entriesAfter number cursor log).filterMap view

theorem numbered_pageOf (hnumbered : Numbered number log)
    (hview : ∀ entry shownEntry, view entry = some shownEntry → shown shownEntry = number entry) :
    Numbered shown (pageOf number view cursor log) :=
  numbered_filterMap (hnumbered.filter _) hview

theorem lt_of_mem_pageOf
    (hview : ∀ entry shownEntry, view entry = some shownEntry → shown shownEntry = number entry)
    {shownEntry : β} (hmem : shownEntry ∈ pageOf number view cursor log) :
    cursor < shown shownEntry := by
  obtain ⟨entry, hentry, hshown⟩ := List.mem_filterMap.mp hmem
  rw [hview entry shownEntry hshown]
  exact (mem_entriesAfter.mp hentry).2

/-- A later page is the part of an earlier one that lies after it. -/
theorem pageOf_of_le
    (hview : ∀ entry shownEntry, view entry = some shownEntry → shown shownEntry = number entry)
    {later : Nat} (hle : cursor ≤ later) (log : List α) :
    pageOf number view later log =
      (pageOf number view cursor log).filter fun shownEntry ↦
        decide (later < shown shownEntry) := by
  unfold pageOf entriesAfter
  induction log with
  | nil => rfl
  | cons entry rest ih =>
    by_cases hlater : later < number entry
    · have hcursor : cursor < number entry := hle.trans_lt hlater
      rw [List.filter_cons_of_pos (by simpa using hlater),
        List.filter_cons_of_pos (by simpa using hcursor), List.filterMap_cons, List.filterMap_cons]
      cases hshown : view entry with
      | none => exact ih
      | some shownEntry =>
        rw [List.filter_cons_of_pos (by simpa [hview entry shownEntry hshown] using hlater)]
        exact congrArg (shownEntry :: ·) ih
    · rw [List.filter_cons_of_neg (by simpa using hlater), ih]
      by_cases hcursor : cursor < number entry
      · rw [List.filter_cons_of_pos (by simpa using hcursor), List.filterMap_cons]
        cases hshown : view entry with
        | none => rfl
        | some shownEntry =>
          exact (List.filter_cons_of_neg
            (by simpa [hview entry shownEntry hshown] using hlater)).symm
      · rw [List.filter_cons_of_neg (by simpa using hcursor)]

/-- A reader that got a part of a page does not stand before its old place. -/
theorem le_advance (hnumbered : Numbered number log)
    (hview : ∀ entry shownEntry, view entry = some shownEntry → shown shownEntry = number entry)
    (hpart : page <+: pageOf number view cursor log) : cursor ≤ advance shown cursor page := by
  have hpage : Numbered shown page :=
    (numbered_pageOf hnumbered hview).sublist hpart.sublist
  rcases advance_cases cursor hpage with ⟨-, hsame⟩ | ⟨last, hlast, hsame, -⟩
  · exact hsame.ge
  · rw [hsame]
    exact (lt_of_mem_pageOf hview (hpart.subset hlast)).le

/-- A reader that got a part of a page, and goes on from there, gets the rest of it. -/
theorem resumed (hnumbered : Numbered number log)
    (hview : ∀ entry shownEntry, view entry = some shownEntry → shown shownEntry = number entry)
    (hpart : page <+: pageOf number view cursor log) :
    pageOf number view cursor log =
      page ++ pageOf number view (advance shown cursor page) log := by
  rw [pageOf_of_le hview (le_advance hnumbered hview hpart) log]
  have hwhole : Numbered shown (pageOf number view cursor log) := numbered_pageOf hnumbered hview
  have hafter {shownEntry : β} (hmem : shownEntry ∈ pageOf number view cursor log) :
      cursor < shown shownEntry := lt_of_mem_pageOf hview hmem
  obtain ⟨rest, hrest⟩ := hpart
  rw [← hrest] at hwhole hafter ⊢
  obtain ⟨hpage, -, hlater⟩ := List.pairwise_append.mp hwhole
  rw [List.filter_append]
  rcases advance_cases cursor hpage with ⟨rfl, hsame⟩ | ⟨last, hlast, hsame, hgreatest⟩
  · have hall : rest.filter (fun shownEntry ↦ decide (cursor < shown shownEntry)) = rest :=
      List.filter_eq_self.mpr fun shownEntry hmem ↦ decide_eq_true (hafter hmem)
    rw [hsame, hall]
    rfl
  · rw [hsame, List.filter_eq_nil_iff.mpr, List.nil_append, List.filter_eq_self.mpr]
    · exact fun shownEntry hmem ↦ decide_eq_true (hlater last hlast shownEntry hmem)
    · intro shownEntry hmem
      simpa using hgreatest shownEntry hmem

/-- A page and what is read after it, of the log as it has grown since, are one read of the grown
log. -/
theorem page_then_rest (hnumbered : Numbered number (log ++ more))
    (hview : ∀ entry shownEntry, view entry = some shownEntry → shown shownEntry = number entry)
    (cursor : Nat) :
    pageOf number view cursor (log ++ more) =
      pageOf number view cursor log ++
        pageOf number view (advance shown cursor (pageOf number view cursor log))
          (log ++ more) := by
  refine resumed hnumbered hview ?_
  unfold pageOf
  rw [entriesAfter_append, List.filterMap_append]
  exact List.prefix_append _ _

end Page

end AgentRuntime.Library

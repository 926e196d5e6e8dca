import AgentRuntime.Library.Table
import Mathlib.Data.List.Induction
import Mathlib.Data.List.Sort

/-!
# The best item for every key

`keepBest` fills a dictionary with one item for every key, the first of least rank. `Leads` says
which item that is without the dictionary, and `AppearsBefore` in which order the dictionary lists
its keys: by their first appearance, since replacing an item leaves its place.

The order of a list without duplicates is told by its pairs: `eq_of_pairs_agree`.
-/

set_option autoImplicit false
set_option relaxedAutoImplicit false

namespace AgentRuntime.Library

/-! ### Pairs in a list -/

section Pairs

variable {α : Type}

theorem pair_sublist_or {items : List α} {a b : α} (ha : a ∈ items) (hb : b ∈ items)
    (hne : a ≠ b) : [a, b].Sublist items ∨ [b, a].Sublist items := by
  induction items with
  | nil => cases ha
  | cons head rest ih =>
    rcases List.mem_cons.mp ha with rfl | harest
    · have hbrest : b ∈ rest := (List.mem_cons.mp hb).resolve_left hne.symm
      exact .inl ((List.singleton_sublist.mpr hbrest).cons_cons a)
    · rcases List.mem_cons.mp hb with rfl | hbrest
      · exact .inr ((List.singleton_sublist.mpr harest).cons_cons b)
      · exact (ih harest hbrest).imp (fun hsub ↦ hsub.cons _) fun hsub ↦ hsub.cons _

theorem not_both_pairs {items : List α} (hnodup : items.Nodup) {a b : α}
    (hab : [a, b].Sublist items) : ¬ [b, a].Sublist items := by
  intro hba
  induction items with
  | nil => cases hab
  | cons head rest ih =>
    obtain ⟨hhead, hrest⟩ := List.nodup_cons.mp hnodup
    cases hab with
    | cons _ hab =>
      cases hba with
      | cons _ hba => exact ih hrest hab hba
      | cons_cons _ hba => exact hhead (hab.subset (by simp))
    | cons_cons _ hab =>
      cases hba with
      | cons _ hba => exact hhead (hba.subset (by simp))
      | cons_cons _ hba => exact hhead (hba.subset (by simp))

/-- Two lists of the same items are equal when no two items stand in opposite orders. -/
theorem eq_of_pairs_agree {left right : List α} (hnodup : left.Nodup) (hperm : left.Perm right)
    (hagree : ∀ a b, [a, b].Sublist left → ¬ [b, a].Sublist right) : left = right := by
  have hother : right.Nodup := hperm.nodup_iff.mp hnodup
  have hself {items : List α} : items.Pairwise fun a b ↦ [a, b].Sublist items :=
    List.pairwise_iff_forall_sublist.mpr fun hpair ↦ hpair
  refine List.Perm.eq_of_pairwise ?_ hself (hself.imp_of_mem fun {a b} ha hb hpair ↦ ?_) hperm
  · intro a b _ _ hab hba
    exact absurd hba (not_both_pairs hnodup hab)
  · have hne : a ≠ b := by
      rintro rfl
      exact List.nodup_iff_sublist.mp hother a hpair
    refine (pair_sublist_or (hperm.mem_iff.mpr ha) (hperm.mem_iff.mpr hb) hne).resolve_right
      fun hswapped ↦ ?_
    exact hagree b a hswapped hpair

/-- Where an item of a concatenation stands. -/
theorem flatMap_eq_append_cons {β : Type} {parts : List β} {items : β → List α}
    {before after : List α} {item : α} (hsplit : parts.flatMap items = before ++ item :: after) :
    ∃ earlier part later front back, parts = earlier ++ part :: later ∧
      items part = front ++ item :: back ∧ before = earlier.flatMap items ++ front := by
  induction parts generalizing before with
  | nil => simp at hsplit
  | cons part rest ih =>
    rw [List.flatMap_cons] at hsplit
    rcases List.append_eq_append_iff.mp hsplit with ⟨front, rfl, hrest⟩ | ⟨back, hpart, hitem⟩
    · obtain ⟨earlier, found, later, start, stop, rfl, hfound, rfl⟩ := ih hrest
      exact ⟨part :: earlier, found, later, start, stop, rfl, hfound, by simp⟩
    · cases back with
      | nil =>
        rw [List.append_nil] at hpart
        have hrest : rest.flatMap items = [] ++ item :: after := hitem.symm
        obtain ⟨earlier, found, later, start, stop, rfl, hfound, hstart⟩ := ih hrest
        refine ⟨part :: earlier, found, later, start, stop, rfl, hfound, ?_⟩
        rw [List.flatMap_cons, List.append_assoc, ← hstart, hpart, List.append_nil]
      | cons head tail =>
        obtain ⟨rfl, rfl⟩ := List.cons.inj hitem
        exact ⟨[], part, rest, before, tail, rfl, hpart, rfl⟩

end Pairs

/-! ### The dictionary -/

variable {α κ : Type} (key : α → κ) (rank : α → Nat)

/-- One more item: the first for its key, or a better one than the one there. -/
def keepBest [DecidableEq κ] (best : Table κ α) (item : α) : Table κ α :=
  match best.find (key item) with
  | none => best.insert (key item) item
  | some existing =>
    if rank item < rank existing then best.modify (key item) fun _ ↦ item else best

/-- The first item of least rank among those with its key. -/
def Leads (items : List α) (item : α) : Prop :=
  ∃ before after, items = before ++ item :: after ∧
    (∀ other ∈ before, key other = key item → rank item < rank other) ∧
    ∀ other ∈ after, key other = key item → rank item ≤ rank other

/-- The first key appears among the items before the second one does. -/
def AppearsBefore (items : List α) (first second : κ) : Prop :=
  ∃ before after, items = before ++ after ∧ first ∈ before.map key ∧ second ∉ before.map key

variable {key rank} {items : List α} {item : α}

theorem Leads.mem (hleads : Leads key rank items item) : item ∈ items := by
  obtain ⟨before, after, rfl, -, -⟩ := hleads
  simp

theorem Leads.rank_le (hleads : Leads key rank items item) {other : α} (hmem : other ∈ items)
    (hkey : key other = key item) : rank item ≤ rank other := by
  obtain ⟨before, after, rfl, hbefore, hafter⟩ := hleads
  rcases List.mem_append.mp hmem with hmem | hmem
  · exact (hbefore other hmem hkey).le
  · rcases List.mem_cons.mp hmem with rfl | hmem
    · exact Nat.le_refl _
    · exact hafter other hmem hkey

theorem leads_concat {last : α} : Leads key rank (items ++ [last]) item ↔
    (Leads key rank items item ∧ (key last = key item → rank item ≤ rank last)) ∨
      (item = last ∧ ∀ other ∈ items, key other = key last → rank last < rank other) := by
  constructor
  · rintro ⟨before, after, hitems, hbefore, hafter⟩
    rcases List.eq_nil_or_concat after with rfl | ⟨rest, final, rfl⟩
    · obtain ⟨rfl, hlast⟩ := List.append_inj' hitems rfl
      obtain rfl := (List.cons.inj hlast).1
      exact .inr ⟨rfl, hbefore⟩
    · rw [List.concat_eq_append, ← List.cons_append, ← List.append_assoc] at hitems
      obtain ⟨rfl, hlast⟩ := List.append_inj' hitems rfl
      obtain rfl := (List.cons.inj hlast).1
      refine .inl ⟨⟨before, rest, rfl, hbefore, fun other hmem ↦ ?_⟩, fun hkey ↦ ?_⟩
      · exact hafter other (by simp [hmem])
      · exact hafter last (by simp) hkey
  · rintro (⟨⟨before, after, rfl, hbefore, hafter⟩, hlast⟩ | ⟨rfl, hbefore⟩)
    · refine ⟨before, after ++ [last], by simp, hbefore, fun other hmem hkey ↦ ?_⟩
      rcases List.mem_append.mp hmem with hmem | hmem
      · exact hafter other hmem hkey
      · obtain rfl := List.mem_singleton.mp hmem
        exact hlast hkey
    · exact ⟨items, [], rfl, hbefore, fun other hmem ↦ by cases hmem⟩

variable [DecidableEq κ]

/-- What one more item does to a key. -/
theorem find_keepBest_step (best : Table κ α) (k : κ) :
    (keepBest key rank best item).find k =
      if k = key item then
        match best.find k with
        | none => some item
        | some existing => if rank item < rank existing then some item else some existing
      else best.find k := by
  unfold keepBest
  cases hfind : best.find (key item) with
  | none =>
    dsimp only
    rw [Table.find_insert_of_fresh _ _ _ _ hfind]
    by_cases hkey : k = key item
    · rw [if_pos hkey, if_pos hkey, hkey, hfind]
    · rw [if_neg hkey, if_neg hkey]
  | some existing =>
    dsimp only
    by_cases hkey : k = key item
    · rw [if_pos hkey, hkey, hfind]
      dsimp only
      split_ifs with hrank
      · rw [Table.find_modify, if_pos rfl, hfind, Option.map_some]
      · exact hfind
    · rw [if_neg hkey]
      split_ifs with hrank
      · rw [Table.find_modify, if_neg hkey]
      · rfl

/-- A key is in the dictionary when some item has it. -/
theorem find_keepBest_eq_none (items : List α) (k : κ) :
    (items.foldl (keepBest key rank) .empty).find k = none ↔ k ∉ items.map key := by
  induction items using List.reverseRecOn with
  | nil => simp
  | append_singleton items last ih =>
    rw [List.foldl_concat, find_keepBest_step, List.map_append, List.mem_append, not_or, ← ih]
    by_cases hkey : k = key last
    · rw [if_pos hkey]
      have hlisted : ¬ k ∉ [last].map key := by simp [hkey]
      cases (items.foldl (keepBest key rank) .empty).find k with
      | none => simpa using hlisted
      | some existing =>
        dsimp only
        split_ifs <;> simp
    · simp [hkey]

/-- The dictionary holds the leading items. -/
theorem find_keepBest (items : List α) (k : κ) (item : α) :
    (items.foldl (keepBest key rank) .empty).find k = some item ↔
      Leads key rank items item ∧ key item = k := by
  induction items using List.reverseRecOn generalizing item with
  | nil =>
    constructor
    · intro hfind
      cases hfind
    · rintro ⟨hleads, -⟩
      cases hleads.mem
  | append_singleton items last ih =>
    rw [List.foldl_concat, find_keepBest_step, leads_concat]
    by_cases hkey : k = key last
    · rw [if_pos hkey]
      cases hfind : (items.foldl (keepBest key rank) .empty).find k with
      | none =>
        have habsent := (find_keepBest_eq_none items k).mp hfind
        have hfresh (other : α) (hmem : other ∈ items) : key other ≠ k :=
          fun heq ↦ habsent (heq ▸ List.mem_map_of_mem hmem)
        constructor
        · intro heq
          obtain rfl := Option.some.inj heq
          exact ⟨.inr ⟨rfl, fun other hmem hother ↦ absurd (hother.trans hkey.symm)
            (hfresh other hmem)⟩, hkey.symm⟩
        · rintro ⟨⟨hleads, -⟩ | ⟨rfl, -⟩, hitem⟩
          · exact absurd hitem (hfresh item hleads.mem)
          · rfl
      | some existing =>
        obtain ⟨hexisting, hexistingKey⟩ := (ih existing).mp hfind
        have hunique (other : α) (hother : Leads key rank items other) (hotherKey : key other = k) :
            other = existing := by
          have hsame := (ih other).mpr ⟨hother, hotherKey⟩
          rw [hfind] at hsame
          exact (Option.some.inj hsame).symm
        dsimp only
        by_cases hrank : rank last < rank existing
        · rw [if_pos hrank]
          constructor
          · intro heq
            obtain rfl := Option.some.inj heq
            refine ⟨.inr ⟨rfl, fun other hmem hother ↦ ?_⟩, hkey.symm⟩
            exact lt_of_lt_of_le hrank
              (hexisting.rank_le hmem (hother.trans (hkey.symm.trans hexistingKey.symm)))
          · rintro ⟨⟨hleads, hlast⟩ | ⟨rfl, -⟩, hitem⟩
            · obtain rfl := hunique item hleads hitem
              exact absurd (hlast (hkey.symm.trans hitem.symm)) (Nat.not_le.mpr hrank)
            · rfl
        · rw [if_neg hrank]
          constructor
          · intro heq
            obtain rfl := Option.some.inj heq
            exact ⟨.inl ⟨hexisting, fun _ ↦ Nat.not_lt.mp hrank⟩, hexistingKey⟩
          · rintro ⟨⟨hleads, -⟩ | ⟨rfl, hlast⟩, hitem⟩
            · rw [hunique item hleads hitem]
            · exact absurd (hlast existing hexisting.mem (hexistingKey.trans hkey)) hrank
    · rw [if_neg hkey, ih]
      constructor
      · rintro ⟨hleads, hitem⟩
        exact ⟨.inl ⟨hleads, fun hlast ↦ absurd (hitem.symm.trans hlast.symm) hkey⟩, hitem⟩
      · rintro ⟨⟨hleads, -⟩ | ⟨rfl, -⟩, hitem⟩
        · exact ⟨hleads, hitem⟩
        · exact absurd hitem.symm hkey

/-! ### The order of the keys -/

theorem keys_keepBest_step (best : Table κ α) (item : α) :
    (keepBest key rank best item).rows.map Prod.fst =
      if key item ∈ best.rows.map Prod.fst then best.rows.map Prod.fst
      else best.rows.map Prod.fst ++ [key item] := by
  unfold keepBest
  cases hfind : best.find (key item) with
  | none =>
    dsimp only
    rw [if_neg ((Table.find_eq_none_iff _ _).mp hfind), Table.rows_insert_of_fresh _ _ _ hfind]
    simp
  | some existing =>
    have hmem : key item ∈ best.rows.map Prod.fst := by
      by_contra habsent
      rw [(Table.find_eq_none_iff _ _).mpr habsent] at hfind
      cases hfind
    rw [if_pos hmem]
    dsimp only
    split_ifs
    · exact Table.map_fst_modifyRows best.rows (key item) fun _ ↦ item
    · rfl

theorem keys_keepBest_append (best : Table κ α) (items : List α) :
    best.rows.map Prod.fst <+: (items.foldl (keepBest key rank) best).rows.map Prod.fst := by
  induction items generalizing best with
  | nil => exact List.prefix_rfl
  | cons head rest ih =>
    have hstep : best.rows.map Prod.fst <+: (keepBest key rank best head).rows.map Prod.fst := by
      rw [keys_keepBest_step]
      split_ifs
      · exact List.prefix_rfl
      · exact List.prefix_append _ _
    exact hstep.trans (ih _)

theorem mem_keys_keepBest (items : List α) (k : κ) :
    k ∈ (items.foldl (keepBest key rank) .empty).rows.map Prod.fst ↔ k ∈ items.map key := by
  rw [← not_iff_not, ← Table.find_eq_none_iff]
  exact find_keepBest_eq_none items k

/-- Of two keys, one appears first. -/
theorem appearsBefore_or {first second : κ} (hfirst : first ∈ items.map key)
    (hne : first ≠ second) :
    AppearsBefore key items first second ∨ AppearsBefore key items second first := by
  induction items using List.reverseRecOn with
  | nil => cases hfirst
  | append_singleton items last ih =>
    by_cases hmem : first ∈ items.map key
    · rcases ih hmem with ⟨before, after, rfl, hbefore⟩ | ⟨before, after, rfl, hbefore⟩
      · exact .inl ⟨before, after ++ [last], by simp, hbefore⟩
      · exact .inr ⟨before, after ++ [last], by simp, hbefore⟩
    · have hlast : first = key last := by
        rw [List.map_append, List.mem_append] at hfirst
        simpa using hfirst.resolve_left hmem
      by_cases hsecond : second ∈ items.map key
      · exact .inr ⟨items, [last], rfl, hsecond, hmem⟩
      · refine .inl ⟨items ++ [last], [], by simp, hfirst, ?_⟩
        rw [List.map_append, List.mem_append, not_or]
        exact ⟨hsecond, by simpa [← hlast] using hne.symm⟩

variable (rank) in
theorem pair_sublist_of_appearsBefore {first second : κ}
    (hbefore : AppearsBefore key items first second) (hsecond : second ∈ items.map key) :
    [first, second].Sublist ((items.foldl (keepBest key rank) .empty).rows.map Prod.fst) := by
  obtain ⟨before, after, rfl, hfirst, habsent⟩ := hbefore
  have hlisted : second ∈ ((before ++ after).foldl (keepBest key rank) .empty).rows.map Prod.fst :=
    (mem_keys_keepBest _ second).mpr hsecond
  have hearly : first ∈ (before.foldl (keepBest key rank) .empty).rows.map Prod.fst :=
    (mem_keys_keepBest _ first).mpr hfirst
  have hlate : second ∉ (before.foldl (keepBest key rank) .empty).rows.map Prod.fst :=
    fun hmem ↦ habsent ((mem_keys_keepBest _ second).mp hmem)
  rw [List.foldl_append] at hlisted ⊢
  obtain ⟨more, hmore⟩ : (before.foldl (keepBest key rank) .empty).rows.map Prod.fst <+:
      (after.foldl (keepBest key rank) (before.foldl (keepBest key rank) .empty)).rows.map
        Prod.fst := keys_keepBest_append _ _
  rw [← hmore] at hlisted ⊢
  have hmem : second ∈ more := (List.mem_append.mp hlisted).resolve_left hlate
  exact (List.singleton_sublist.mpr hearly).append (List.singleton_sublist.mpr hmem)

/-- The dictionary lists its keys in the order of their first appearance. -/
theorem pair_sublist_keys {first second : κ} (hfirst : first ∈ items.map key)
    (hsecond : second ∈ items.map key) (hne : first ≠ second) :
    [first, second].Sublist ((items.foldl (keepBest key rank) .empty).rows.map Prod.fst) ↔
      AppearsBefore key items first second := by
  constructor
  · intro hsub
    refine (appearsBefore_or hfirst hne).resolve_right fun hswapped ↦ ?_
    exact not_both_pairs (Table.nodup _) hsub (pair_sublist_of_appearsBefore rank hswapped hfirst)
  · exact fun hbefore ↦ pair_sublist_of_appearsBefore rank hbefore hsecond

end AgentRuntime.Library

import Mathlib.Data.List.Basic
import Mathlib.Data.List.Induction
import Mathlib.Data.List.Pairwise
import Mathlib.Order.Fin.Basic
import Mathlib.Tactic.SplitIfs
import TextTemplate.Distinct

/-!
# The first of each item

When only equal items count as the same, what is kept of a list has every item of it once, in the
order in which they first occur. The items that are already kept are a parameter of the recursion,
so each fact is proved with them: nothing that is kept occurs among the others again.

## Other senses of being the same

An item is only ever compared with kept ones, so what is left of a list may stand for the list
whatever counts as the same: that much holds of any test. That it is also settled by all earlier
items, kept or not, takes a test that is symmetric and transitive on the items. It need not be
reflexive.
-/

namespace TextTemplate

namespace Distinct

variable {α : Type} [DecidableEq α] {item : α}

theorem mem_beyond_iff {kept items : List α} :
    item ∈ beyond (· = ·) kept items ↔ item ∈ items ∧ item ∉ kept := by
  fun_induction beyond (· = ·) kept items with
  | case1 => simp
  | case2 kept first rest hfirst ih =>
    have hmem : first ∈ kept := by simpa using hfirst
    rw [ih, List.mem_cons]
    constructor
    · rintro ⟨hrest, hnew⟩
      exact ⟨Or.inr hrest, hnew⟩
    · rintro ⟨rfl | hrest, hnew⟩
      · exact absurd hmem hnew
      · exact ⟨hrest, hnew⟩
  | case3 kept first rest hfirst ih =>
    have hmem : first ∉ kept := by simpa using hfirst
    rw [List.mem_cons, ih, List.mem_cons, List.mem_cons, not_or]
    constructor
    · rintro (rfl | ⟨hrest, -, hnew⟩)
      · exact ⟨Or.inl rfl, hmem⟩
      · exact ⟨Or.inr hrest, hnew⟩
    · rintro ⟨rfl | hrest, hnew⟩
      · exact Or.inl rfl
      · by_cases heq : item = first
        · exact Or.inl heq
        · exact Or.inr ⟨hrest, heq, hnew⟩

theorem mem_firsts_iff {items : List α} : item ∈ firsts (· = ·) items ↔ item ∈ items := by
  rw [firsts, mem_beyond_iff]
  simp

variable [BEq α] [LawfulBEq α]

theorem pairwise_beyond (kept items : List α) :
    (beyond (· = ·) kept items).Pairwise fun a b ↦ items.idxOf a < items.idxOf b := by
  -- An item that is not the first one is found one place further on.
  have hcons {first : α} {rest others : List α}
      (hrest : others.Pairwise fun a b ↦ rest.idxOf a < rest.idxOf b) (hfirst : first ∉ others) :
      others.Pairwise fun a b ↦ (first :: rest).idxOf a < (first :: rest).idxOf b := by
    refine hrest.imp_of_mem fun {a b} ha hb hlt ↦ ?_
    have hne {item : α} (hitem : item ∈ others) : first ≠ item := by
      rintro rfl
      exact hfirst hitem
    rw [List.idxOf_cons_ne _ (hne ha), List.idxOf_cons_ne _ (hne hb)]
    exact Nat.succ_lt_succ hlt
  fun_induction beyond (· = ·) kept items with
  | case1 => exact List.Pairwise.nil
  | case2 kept first rest hfirst ih =>
    refine hcons ih fun hmem ↦ ?_
    exact (mem_beyond_iff.mp hmem).2 (by simpa using hfirst)
  | case3 kept first rest hfirst ih =>
    have hnew : first ∉ beyond (· = ·) (first :: kept) rest :=
      fun hmem ↦ (mem_beyond_iff.mp hmem).2 List.mem_cons_self
    refine List.Pairwise.cons (fun other hother ↦ ?_) (hcons ih hnew)
    have hne : first ≠ other := by
      rintro rfl
      exact hnew hother
    rw [List.idxOf_cons_self, List.idxOf_cons_ne _ hne]
    exact Nat.succ_pos _

theorem pairwise_firsts (items : List α) :
    (firsts (· = ·) items).Pairwise fun a b ↦ items.idxOf a < items.idxOf b :=
  pairwise_beyond [] items

theorem nodup_firsts (items : List α) : (firsts (· = ·) items).Nodup := by
  refine (pairwise_firsts items).imp fun {a b} hlt ↦ ?_
  rintro rfl
  exact Nat.lt_irrefl _ hlt

/-! ## Any sense of being the same -/

section

variable {β : Type} {same : β → β → Bool}

/-- A second list is gone through with what is left of the first already kept. -/
theorem beyond_append (kept items more : List β) :
    beyond same kept (items ++ more)
      = beyond same kept items ++ beyond same ((beyond same kept items).reverse ++ kept) more := by
  fun_induction beyond same kept items with
  | case1 => rfl
  | case2 kept first rest hfirst ih => rw [List.cons_append, beyond, if_pos hfirst, ih]
  | case3 kept first rest hfirst ih =>
    rw [List.cons_append, beyond, if_neg hfirst, ih, List.reverse_cons, List.append_assoc,
      List.cons_append, List.singleton_append]

/-- One more item is kept if none that is kept is the same. -/
theorem firsts_concat (items : List β) (item : β) :
    firsts same (items ++ [item])
      = if (firsts same items).any (same · item) then firsts same items
        else firsts same items ++ [item] := by
  rw [firsts, beyond_append, List.append_nil, beyond, List.any_reverse, ← firsts]
  split_ifs
  · rw [beyond, List.append_nil]
  · rw [beyond]

theorem firsts_firsts (items : List β) : firsts same (firsts same items) = firsts same items := by
  induction items using List.reverseRecOn with
  | nil => rfl
  | append_singleton items item ih =>
    rw [firsts_concat]
    split_ifs with hitem
    · exact ih
    · rw [firsts_concat, ih, if_neg hitem]

/-- What is left of a list stands for the list before any other. -/
theorem firsts_firsts_append (items more : List β) :
    firsts same (firsts same items ++ more) = firsts same (items ++ more) := by
  induction more using List.reverseRecOn with
  | nil => rw [List.append_nil, List.append_nil, firsts_firsts]
  | append_singleton more item ih =>
    rw [← List.append_assoc, ← List.append_assoc, firsts_concat, firsts_concat, ih]

theorem firsts_sublist (items : List β) : (firsts same items).Sublist items :=
  sublist_beyond same [] items

theorem pairwise_not_same_firsts (items : List β) :
    (firsts same items).Pairwise fun a b ↦ same a b = false := by
  induction items using List.reverseRecOn with
  | nil => exact List.Pairwise.nil
  | append_singleton items item ih =>
    rw [firsts_concat]
    split_ifs with hitem
    · exact ih
    · rw [Bool.not_eq_true, List.any_eq_false] at hitem
      refine List.pairwise_append.mpr ⟨ih, List.pairwise_singleton _ _, ?_⟩
      intro kept hkept other hother
      rw [List.mem_singleton.mp hother]
      exact Bool.not_eq_true _ ▸ hitem kept hkept

/-- An item that is not kept is the same as one that is. -/
theorem mem_firsts_or_same {items : List β} {item : β} (hitem : item ∈ items) :
    item ∈ firsts same items ∨ ∃ kept ∈ firsts same items, same kept item = true := by
  induction items using List.reverseRecOn with
  | nil => exact absurd hitem List.not_mem_nil
  | append_singleton items last ih =>
    rw [firsts_concat]
    rcases List.mem_append.mp hitem with hitem | hlast
    · split_ifs
      · exact ih hitem
      · rcases ih hitem with hkept | ⟨kept, hkept, hsame⟩
        · exact Or.inl (List.mem_append_left _ hkept)
        · exact Or.inr ⟨kept, List.mem_append_left _ hkept, hsame⟩
    · rw [List.mem_singleton] at hlast
      subst hlast
      split_ifs with hsame
      · obtain ⟨kept, hkept, hsame⟩ := List.any_eq_true.mp hsame
        exact Or.inr ⟨kept, hkept, hsame⟩
      · exact Or.inl (List.mem_append_right _ List.mem_cons_self)

end

/-! ## A partial equivalence

Not every item has to be the same as itself. What is kept is still settled by the list alone,
because an item that is the same as an earlier one is the same as one that was kept. -/

section

variable {β : Type} {same : β → β → Bool} {r : β → β → Prop} {items : List β}

open Classical in
/-- The items of which there is none before. -/
noncomputable def unpreceded (r : β → β → Prop) (items : List β) : List β :=
  (items.zipIdx.filter fun (item, place) ↦ ∀ earlier ∈ items.take place, ¬ r earlier item).map
    Prod.fst

open Classical in
theorem unpreceded_concat (r : β → β → Prop) (items : List β) (item : β) :
    unpreceded r (items ++ [item])
      = if ∃ earlier ∈ items, r earlier item then unpreceded r items
        else unpreceded r items ++ [item] := by
  -- The new item is before none of the others.
  have hfront : (items.zipIdx.filter fun (other, place) ↦
        ∀ earlier ∈ (items ++ [item]).take place, ¬ r earlier other)
      = items.zipIdx.filter fun (other, place) ↦
        ∀ earlier ∈ items.take place, ¬ r earlier other := by
    refine List.filter_congr fun (other, place) hmem ↦ ?_
    have hplace : place < items.length := by simpa using List.snd_lt_of_mem_zipIdx hmem
    simp only [List.take_append_of_le_length (Nat.le_of_lt hplace)]
  have htake : (items ++ [item]).take (0 + items.length) = items := by simp
  rw [unpreceded, List.zipIdx_append, List.filter_append, hfront, List.map_append, ← unpreceded,
    List.zipIdx_singleton]
  split_ifs with hearlier
  · obtain ⟨earlier, hmem, hr⟩ := hearlier
    rw [List.filter_cons_of_neg, List.filter_nil, List.map_nil, List.append_nil]
    rw [decide_eq_true_iff, htake]
    exact fun hnone ↦ hnone earlier hmem hr
  · rw [List.filter_cons_of_pos, List.filter_nil, List.map_cons, List.map_nil]
    rw [decide_eq_true_iff, htake]
    exact fun earlier hmem hr ↦ hearlier ⟨earlier, hmem, hr⟩

/-- **What is kept are the items of which there is none before.** -/
theorem firsts_eq_unpreceded [IsTrans β r]
    (hsame : ∀ a ∈ items, ∀ b ∈ items, same a b = true ↔ r a b) :
    firsts same items = unpreceded r items := by
  classical
  induction items using List.reverseRecOn with
  | nil => rfl
  | append_singleton items item ih =>
    have hmem {a : β} (ha : a ∈ items) : a ∈ items ++ [item] := List.mem_append_left _ ha
    have hitem : item ∈ items ++ [item] := List.mem_append_right _ List.mem_cons_self
    have hany : (firsts same items).any (same · item) = true ↔
        ∃ earlier ∈ items, r earlier item := by
      rw [List.any_eq_true]
      constructor
      · rintro ⟨kept, hkept, h⟩
        have hkept := (firsts_sublist items).subset hkept
        exact ⟨kept, hkept, (hsame kept (hmem hkept) item hitem).mp h⟩
      · rintro ⟨earlier, hearlier, h⟩
        rcases mem_firsts_or_same hearlier with hkept | ⟨kept, hkept, hkeptsame⟩
        · exact ⟨earlier, hkept, (hsame earlier (hmem hearlier) item hitem).mpr h⟩
        -- An item that was left out is the same as a kept one, and so the new one is, too.
        · have hkept' := hmem ((firsts_sublist items).subset hkept)
          refine ⟨kept, hkept, (hsame kept hkept' item hitem).mpr ?_⟩
          exact IsTrans.trans _ _ _ ((hsame kept hkept' earlier (hmem hearlier)).mp hkeptsame) h
    rw [firsts_concat, unpreceded_concat, if_congr hany rfl rfl,
      ih fun a ha b hb ↦ hsame a (hmem ha) b (hmem hb)]

theorem not_of_ne [Std.Symm r] (hsame : ∀ a ∈ items, ∀ b ∈ items, same a b = true ↔ r a b)
    {i j : Fin (firsts same items).length} (hne : i ≠ j) :
    ¬ r ((firsts same items).get i) ((firsts same items).get j) := by
  have hmem (place : Fin (firsts same items).length) : (firsts same items).get place ∈ items :=
    (firsts_sublist items).subset (List.get_mem _ place)
  have hlt {i j : Fin (firsts same items).length} (hlt : i < j) :
      ¬ r ((firsts same items).get i) ((firsts same items).get j) := by
    rw [← hsame _ (hmem i) _ (hmem j), Bool.not_eq_true]
    exact List.pairwise_iff_get.mp (pairwise_not_same_firsts items) i j hlt
  rcases lt_or_gt_of_ne hne with h | h
  · exact hlt h
  · exact fun hr ↦ hlt h (Std.Symm.symm _ _ hr)

/-- **An item that is the same as itself is the same as exactly one of those kept.** -/
theorem existsUnique_place [Std.Symm r] [IsTrans β r]
    (hsame : ∀ a ∈ items, ∀ b ∈ items, same a b = true ↔ r a b) {item : β} (hitem : item ∈ items)
    (hself : r item item) :
    ∃! place : Fin (firsts same items).length, r ((firsts same items).get place) item := by
  have hexists : ∃ kept ∈ firsts same items, r kept item := by
    rcases mem_firsts_or_same hitem with hkept | ⟨kept, hkept, hsame'⟩
    · exact ⟨item, hkept, hself⟩
    · have hmem := (firsts_sublist items).subset hkept
      exact ⟨kept, hkept, (hsame kept hmem item hitem).mp hsame'⟩
  obtain ⟨kept, hkept, hr⟩ := hexists
  obtain ⟨place, rfl⟩ := List.get_of_mem hkept
  -- Two of them would be the same as each other.
  refine ⟨place, hr, fun other hother ↦ ?_⟩
  by_contra hne
  exact not_of_ne hsame hne (IsTrans.trans _ _ _ hother (Std.Symm.symm _ _ hr))

end

end Distinct

end TextTemplate

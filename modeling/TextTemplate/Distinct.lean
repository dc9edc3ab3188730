/-!
# The first of each kind

Out of a list the items are kept that are the same as none kept before. What counts as the same is
a parameter: it is only ever asked about a kept item and a new one, in this order.
-/

namespace TextTemplate

namespace Distinct

variable {α : Type}

/-- The items that are the same as none in `kept` and none before them. -/
def beyond (same : α → α → Bool) : List α → List α → List α
  | _, [] => []
  | kept, item :: rest =>
    if kept.any (same · item) then beyond same kept rest
    else item :: beyond same (item :: kept) rest

theorem sublist_beyond (same : α → α → Bool) (kept items : List α) :
    (beyond same kept items).Sublist items := by
  fun_induction beyond same kept items with
  | case1 => exact .slnil
  | case2 kept item rest _ ih => exact ih.cons item
  | case3 kept item rest _ ih => exact ih.cons_cons item

/-- The items that are the same as none kept before them. -/
def firsts (same : α → α → Bool) (items : List α) : List α := beyond same [] items

end Distinct

end TextTemplate

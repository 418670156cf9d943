import FieldText.Format.Item
import Mathlib.Data.List.Chain

/-!
Merging.  It can be done one item at a time from the back, which is the form that inductions over a
format string need.  It leaves no empty literal and no two literals in a row, and it changes nothing
where there are none.
-/

namespace FieldText
namespace Item

/-! ## Merging one item at a time -/

/-- Put an item in front of merged items.  A literal takes in a literal that follows it, and an
empty literal leaves nothing behind. -/
def attach : Item → List Item → List Item
  | literal [], items => items
  | literal text, literal next :: items => literal (text ++ next) :: items
  | item, items => item :: items

theorem merge_cons (item : Item) (items : List Item) :
    merge (item :: items) = item.attach (merge items) := by
  cases item with
  | literal text =>
      cases text with
      | nil => rfl
      | cons c text =>
          rw [merge]
          simp only [List.isEmpty_cons, Bool.false_eq_true, if_false]
          split
          · next next others same => rw [same]; rfl
          · next notLiteral =>
              cases merged : merge items with
              | nil => rfl
              | cons head others =>
                  cases head with
                  | literal next => exact absurd merged (notLiteral next others)
                  | _ => rfl
  | _ => rfl

theorem attach_literal_nil : (literal []).attach = fun items => items := by
  funext items
  rfl

/-- Two literals in a row are as good as one. -/
theorem attach_literal_attach_literal (first second : Text) (items : List Item) :
    (literal first).attach ((literal second).attach items) =
      (literal (first ++ second)).attach items := by
  cases first with
  | nil => rfl
  | cons c first =>
      cases second with
      | nil => rw [List.append_nil]; rfl
      | cons d second =>
          cases items with
          | nil => rfl
          | cons head others =>
              cases head with
              | literal next => simp [attach]
              | _ => rfl

theorem attach_eq_cons {item : Item} (notEmpty : item ≠ literal []) {items : List Item}
    (apart : ∀ next, item.isLiteral = true → items.head? ≠ some (literal next)) :
    item.attach items = item :: items := by
  cases item with
  | literal text =>
      cases text with
      | nil => exact absurd rfl notEmpty
      | cons c text =>
          cases items with
          | nil => rfl
          | cons head items =>
              cases head with
              | literal next => exact absurd rfl (apart next rfl)
              | _ => rfl
  | _ => rfl

/-! ## Merged form -/

/-- No literal is empty, and no two literals are neighbours. -/
structure IsMerged (items : List Item) : Prop where
  noEmptyLiteral : literal [] ∉ items
  literalsApart :
    items.IsChain fun first second => ¬ (first.isLiteral = true ∧ second.isLiteral = true)

theorem IsMerged.nil : IsMerged [] := ⟨List.not_mem_nil, .nil⟩

theorem IsMerged.tail {item : Item} {items : List Item} (merged : IsMerged (item :: items)) :
    IsMerged items :=
  ⟨fun member => merged.noEmptyLiteral (List.mem_cons_of_mem item member), merged.literalsApart.tail⟩

theorem IsMerged.attach {items : List Item} (merged : IsMerged items) (item : Item) :
    IsMerged (item.attach items) := by
  rcases merged with ⟨noEmptyLiteral, literalsApart⟩
  cases item with
  | literal text =>
      cases text with
      | nil => exact ⟨noEmptyLiteral, literalsApart⟩
      | cons c text =>
          cases items with
          | nil => exact ⟨by simp [Item.attach], .singleton _⟩
          | cons head items =>
              cases head with
              | literal next =>
                  refine ⟨?_, ?_⟩
                  · simpa [Item.attach] using fun member => noEmptyLiteral (List.mem_cons_of_mem _ member)
                  · rw [List.isChain_cons] at literalsApart
                    exact List.isChain_cons.mpr literalsApart
              | _ =>
                  refine ⟨?_, .cons_cons ?_ literalsApart⟩
                  · simpa [Item.attach] using noEmptyLiteral
                  · simp [isLiteral]
  | _ =>
      refine ⟨?_, literalsApart.cons fun next _ => ?_⟩
      · simpa [Item.attach] using noEmptyLiteral
      · simp [isLiteral]

/-- Merged items have nothing left to merge. -/
theorem merge_eq_self {items : List Item} (merged : IsMerged items) : merge items = items := by
  induction items with
  | nil => rfl
  | cons item items inductionHypothesis =>
      rw [merge_cons, inductionHypothesis merged.tail]
      apply attach_eq_cons
      · intro same
        exact merged.noEmptyLiteral (same ▸ List.mem_cons_self)
      · intro next isLiteral head
        have apart := (List.isChain_cons.mp merged.literalsApart).1 (literal next) head
        exact apart ⟨isLiteral, rfl⟩

end Item
end FieldText

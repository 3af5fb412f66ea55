import Mathlib.Data.List.Forall2
import TensorPipeline.Batch.Stack

/-!
# Columns one after another

Components are stacked in turn up to the first that fails.  A batch therefore means
that each column was stacked, whatever had been used by then, and a failure is that of
one of the columns.
-/

namespace TensorPipeline
namespace Stacking

section

variable {ctx : Context} {parallel : Bool} {component : Nat} {usage : Usage}
  {columns : List (List Tensor)}

theorem forall₂_of_stackColumns_ok
    {batch : Element} (h : (stackColumns ctx parallel component usage columns).1 = .ok batch) :
    List.Forall₂
      (fun (column : List Tensor) (t : Tensor) =>
        exists (c : Nat) (before after : Usage),
          stackColumn ctx parallel c before column = (.ok t, after))
      columns batch := by
  induction columns generalizing component usage batch with
  | nil =>
      cases h
      exact List.Forall₂.nil
  | cons column columns ih =>
      rcases hcolumn : stackColumn ctx parallel component usage column with ⟨result, usage'⟩
      cases result with
      | error f =>
          rw [stackColumns_of_error hcolumn] at h
          cases h
      | ok t =>
          rw [stackColumns_of_ok hcolumn] at h
          rcases hmore : (stackColumns ctx parallel (component + 1) usage' columns).1 with
            f | more
          · rw [hmore] at h
            cases h
          · rw [hmore] at h
            cases h
            exact List.Forall₂.cons ⟨component, usage, usage', hcolumn⟩ (ih hmore)

theorem exists_of_stackColumns_error
    {f : Failure} (h : (stackColumns ctx parallel component usage columns).1 = .error f) :
    exists (c : Nat) (before : Usage) (column : List Tensor),
      column ∈ columns ∧ (stackColumn ctx parallel c before column).1 = .error f := by
  induction columns generalizing component usage with
  | nil => cases h
  | cons column columns ih =>
      rcases hcolumn : stackColumn ctx parallel component usage column with ⟨result, usage'⟩
      cases result with
      | error f' =>
          rw [stackColumns_of_error hcolumn] at h
          cases h
          exact ⟨component, usage, column, List.mem_cons_self, congrArg Prod.fst hcolumn⟩
      | ok t =>
          rw [stackColumns_of_ok hcolumn] at h
          rcases hmore : (stackColumns ctx parallel (component + 1) usage' columns).1 with
            f' | more
          · rw [hmore] at h
            cases h
            rcases ih hmore with ⟨c, before, column', hmem, herror⟩
            exact ⟨c, before, column', List.mem_cons_of_mem column hmem, herror⟩
          · rw [hmore] at h
            cases h

end

theorem length_le_of_mem_columns
    {n : Nat} {window : List Element} {column : List Tensor} (h : column ∈ columns n window) :
    column.length ≤ window.length := by
  rcases List.mem_map.mp h with ⟨c, _, rfl⟩
  exact List.length_filterMap_le _ _

theorem ne_nil_of_mem_columns
    {first : Element} {rest : List Element} {column : List Tensor}
    (h : column ∈ columns first.length (first :: rest)) : column ≠ [] := by
  rcases List.mem_map.mp h with ⟨component, hcomponent, rfl⟩
  have ht := List.getElem?_eq_getElem (List.mem_range.mp hcomponent)
  intro hnil
  rw [List.filterMap_cons, ht] at hnil
  cases hnil

end Stacking
end TensorPipeline

import Mathlib

/-!
# Texts put together with separators

Keys are often built by writing several parts behind each other with a
separator in between.  The parts can be read back when none of them holds the
separator.
-/

namespace Unifabric.Lib

open List

variable {α : Type} {separator : α}

lemma append_separator_inj {left right leftRest rightRest : List α} (leftFree : separator ∉ left)
    (rightFree : separator ∉ right)
    (same : left ++ separator :: leftRest = right ++ separator :: rightRest) :
    left = right ∧ leftRest = rightRest := by
  induction left generalizing right with
  | nil =>
    cases right with
    | nil => exact ⟨rfl, (cons.inj same).2⟩
    | cons first rest =>
      have head := (cons.inj same).1
      exact absurd (head ▸ mem_cons_self) rightFree
  | cons first rest ih =>
    cases right with
    | nil =>
      have head := (cons.inj same).1
      exact absurd (head ▸ mem_cons_self) leftFree
    | cons first' rest' =>
      obtain ⟨rfl, tail⟩ := cons.inj same
      rcases ih (fun member => leftFree (.tail _ member))
        (fun member => rightFree (.tail _ member)) tail with
        ⟨rfl, equal⟩
      exact ⟨rfl, equal⟩

/-- Parts written with a separator behind each can be read back. -/
lemma separated_inj {left right : List (List α)} (leftFree : ∀ part ∈ left, separator ∉ part)
    (rightFree : ∀ part ∈ right, separator ∉ part)
    (same : left.flatMap (fun part => part ++ [separator]) =
      right.flatMap fun part => part ++ [separator]) : left = right := by
  induction left generalizing right with
  | nil =>
    cases right with
    | nil => rfl
    | cons part rest => simp at same
  | cons part rest ih =>
    cases right with
    | nil => simp at same
    | cons part' rest' =>
      simp only [flatMap_cons, append_assoc, singleton_append] at same
      rcases append_separator_inj (leftFree part mem_cons_self)
        (rightFree part' mem_cons_self) same with
        ⟨rfl, tail⟩
      rw [ih (fun other member => leftFree other (.tail _ member))
        (fun other member => rightFree other (.tail _ member)) tail]

/-- Joined parts with one more separator have one behind each part. -/
lemma intercalate_concat {parts : List (List α)} (nonempty : parts ≠ []) :
    [separator].intercalate parts ++ [separator] =
      parts.flatMap fun part => part ++ [separator] := by
  induction parts with
  | nil => exact absurd rfl nonempty
  | cons part rest ih =>
    cases rest with
    | nil => simp
    | cons next others =>
      rw [flatMap_cons, ← ih (cons_ne_nil _ _)]
      simp [intercalate_cons_cons]

lemma intercalate_inj {left right : List (List α)} (leftNonempty : left ≠ [])
    (rightNonempty : right ≠ []) (leftFree : ∀ part ∈ left, separator ∉ part)
    (rightFree : ∀ part ∈ right, separator ∉ part)
    (same : [separator].intercalate left = [separator].intercalate right) : left = right := by
  refine separated_inj leftFree rightFree ?_
  rw [← intercalate_concat leftNonempty, ← intercalate_concat rightNonempty, same]

end Unifabric.Lib

import Mathlib.Data.List.DropRight
import Mathlib.Data.List.Infix
import Tether.Text.Blank

/-! Trimming leaves a stretch of the list whose two ends are outside of the trimmed class, and
changes nothing exactly when they were so before. -/

namespace Tether.Text

variable {α β : Type}

theorem trimRight_eq_rdropWhile (p : α → Bool) (xs : List α) :
    trimRight p xs = xs.rdropWhile p := rfl

/-- Neither the first nor the last element is in the class. -/
structure Bare (p : α → Bool) (xs : List α) : Prop where
  first : ∀ x ∈ xs.head?, p x = false
  last : ∀ x ∈ xs.getLast?, p x = false

theorem bare_iff {p : α → Bool} {xs : List α} :
    Bare p xs ↔ (∀ x ∈ xs.head?, p x = false) ∧ ∀ x ∈ xs.getLast?, p x = false :=
  ⟨fun h => ⟨h.first, h.last⟩, fun h => ⟨h.1, h.2⟩⟩

theorem trimRight_eq_self {p : α → Bool} {xs : List α}
    (h : ∀ x ∈ xs.getLast?, p x = false) : trimRight p xs = xs := by
  rw [trimRight_eq_rdropWhile, List.rdropWhile_eq_self_iff]
  intro ne
  have last := h (xs.getLast ne) (List.getLast?_eq_some_getLast ne)
  simp [last]

theorem dropWhile_eq_self_iff_head? {p : α → Bool} {xs : List α} :
    xs.dropWhile p = xs ↔ ∀ x ∈ xs.head?, p x = false := by
  constructor
  · intro h x hx
    have head := List.head?_dropWhile_not p xs
    rw [h, hx] at head
    exact Bool.eq_false_iff.mpr (by simpa using head)
  · intro h
    cases xs with
    | nil => rfl
    | cons x r => simp [h x rfl]

theorem infix_trimBoth (p : α → Bool) (xs : List α) : trimBoth p xs <:+: xs := by
  have right : trimBoth p xs <+: xs.dropWhile p := List.rdropWhile_prefix p _
  exact right.isInfix.trans (List.dropWhile_suffix p).isInfix

theorem bare_trimBoth (p : α → Bool) (xs : List α) : Bare p (trimBoth p xs) where
  first := by
    intro x hx
    obtain ⟨r, hr⟩ : trimBoth p xs <+: xs.dropWhile p := List.rdropWhile_prefix p _
    have head := List.head?_dropWhile_not p xs
    cases h : trimBoth p xs with
    | nil => simp [h] at hx
    | cons y ys =>
      simp only [h, List.head?_cons, Option.mem_some_iff] at hx
      subst hx
      simpa [← hr, h] using head
  last := by
    intro x hx
    obtain ⟨ne, rfl⟩ := List.mem_getLast?_eq_getLast hx
    exact Bool.eq_false_iff.mpr (List.rdropWhile_last_not p (xs.dropWhile p) ne)

theorem trimBoth_eq_self_iff {p : α → Bool} {xs : List α} :
    trimBoth p xs = xs ↔ Bare p xs := by
  constructor
  · intro h
    exact h ▸ bare_trimBoth p xs
  · intro h
    rw [trimBoth, dropWhile_eq_self_iff_head?.mpr h.first, trimRight_eq_self h.last]

/-- What follows the end of a list is trimmed off with it if it is all in the class. -/
theorem trimBoth_append_of_forall {p : α → Bool} (xs : List α) {ys : List α}
    (h : ∀ y ∈ ys, p y) : trimBoth p (xs ++ ys) = trimBoth p xs := by
  have right : ∀ zs : List α, trimRight p (zs ++ ys) = trimRight p zs := by
    intro zs
    rw [trimRight, List.reverse_append, List.dropWhile_append_of_pos (by simpa using h), trimRight]
  rw [trimBoth, List.dropWhile_append]
  split
  · next empty =>
    have none : xs.dropWhile p = [] := by simpa using empty
    have gone : ys.dropWhile p = [] := List.dropWhile_eq_nil_iff.mpr h
    rw [trimBoth, none, gone]
  · rw [right, trimBoth]

/-- Trimming at the front commutes with writing each element out, if an element is in its class
exactly when all that it is written as is in the other. -/
theorem dropWhile_flatMap {f : α → List β} {p : β → Bool} {q : α → Bool}
    (inside : ∀ a, q a = true → ∀ b ∈ f a, p b = true)
    (outside : ∀ a, q a = false → f a ≠ [] ∧ ∀ b ∈ f a, p b = false) (xs : List α) :
    (xs.flatMap f).dropWhile p = (xs.dropWhile q).flatMap f := by
  induction xs with
  | nil => rfl
  | cons a r ih =>
    cases h : q a with
    | true => rw [List.flatMap_cons, List.dropWhile_append_of_pos (inside a h), ih,
        List.dropWhile_cons_of_pos h]
    | false =>
      obtain ⟨ne, none⟩ := outside a h
      rw [List.dropWhile_cons_of_neg (by simp [h]), List.flatMap_cons]
      apply dropWhile_eq_self_iff_head?.mpr
      intro b hb
      apply none b
      cases hf : f a with
      | nil => exact absurd hf ne
      | cons c cs => simp_all

theorem trimBoth_flatMap {f : α → List β} {p : β → Bool} {q : α → Bool}
    (inside : ∀ a, q a = true → ∀ b ∈ f a, p b = true)
    (outside : ∀ a, q a = false → f a ≠ [] ∧ ∀ b ∈ f a, p b = false) (xs : List α) :
    trimBoth p (xs.flatMap f) = (trimBoth q xs).flatMap f := by
  have right : ∀ zs : List α, trimRight p (zs.flatMap f) = (trimRight q zs).flatMap f := by
    intro zs
    have mirrored := dropWhile_flatMap (f := List.reverse ∘ f) (p := p) (q := q)
      (by simpa using inside) (by simpa using outside) zs.reverse
    rw [trimRight, List.reverse_flatMap, mirrored, trimRight, List.reverse_flatMap]
    simp [Function.comp_def]
  rw [trimBoth, dropWhile_flatMap inside outside, right, trimBoth]

end Tether.Text

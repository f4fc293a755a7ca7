import CInterface.Toml.Scan

namespace CInterface.Toml.Scan

/-!
# TOML — laws of scanners

What scanners do on a given text, and what can be said of all that they read.

* `repeated_flatMap` — a scanner that reads each printed item reads a row of them.
* `Yields` — whatever a scanner reads satisfies a predicate; there is one law per way to put scanners
  together.
-/

/-! ### Scanners on a text -/

@[simp] theorem bind_apply {α β : Type} (m : Scan α) (f : α → Scan β) (t : Text) :
    (m >>= f) t = (m t).bind fun p => f p.1 p.2 := rfl

@[simp] theorem pure_apply {α : Type} (x : α) (t : Text) : (pure x : Scan α) t = some (x, t) := rfl

@[simp] theorem map_apply {α β : Type} (f : α → β) (m : Scan α) (t : Text) :
    (f <$> m) t = (m t).map fun p => (f p.1, p.2) := by
  cases h : m t <;> simp [Functor.map, StateT.map, h]

@[simp] theorem orElse_apply {α : Type} (m n : Scan α) (t : Text) :
    (m <|> n) t = (m t <|> n t) := rfl

theorem char_cons (c : Char) (t : Text) : char c (c :: t) = some (c, t) := by
  simp [char, satisfy]

theorem char_cons_of_ne {c d : Char} (h : d ≠ c) (t : Text) : char c (d :: t) = none := by
  simp [char, satisfy, h]

/-- A scanner that reads each printed item reads a row of them, if it fails on what follows. -/
theorem repeatUpTo_flatMap {α : Type} {item : Scan α} {print : α → Text} {rest : Text}
    (hitem : ∀ x t, item (print x ++ t) = some (x, t)) (hrest : item rest = none) (xs : List α)
    (bound : Text) (hbound : xs.length ≤ bound.length) :
    repeatUpTo item bound (xs.flatMap print ++ rest) = some (xs, rest) := by
  -- On the items; each takes one character off the bound.
  induction xs generalizing bound with
  | nil =>
    cases bound with
    | nil => rfl
    | cons b bound => simp [repeatUpTo, hrest]
  | cons x xs ih =>
    cases bound with
    | nil => exact absurd hbound (by simp)
    | cons b bound =>
      have hread := ih bound (by simpa using hbound)
      simp [repeatUpTo, hitem, hread]

/-- The text itself bounds how often a scanner reads, since each item takes up a character. -/
theorem repeated_flatMap {α : Type} {item : Scan α} {print : α → Text} {rest : Text}
    (hitem : ∀ x t, item (print x ++ t) = some (x, t)) (hrest : item rest = none)
    (hne : ∀ x, print x ≠ []) (xs : List α) :
    repeated item (xs.flatMap print ++ rest) = some (xs, rest) := by
  have hlength : xs.length ≤ (xs.flatMap print).length := by
    induction xs with
    | nil => simp
    | cons x xs ih =>
      have hx := List.length_pos_iff.2 (hne x)
      simp only [List.flatMap_cons, List.length_append, List.length_cons]
      omega
  refine repeatUpTo_flatMap hitem hrest xs _ ?_
  rw [List.length_append]
  omega

/-! ### What scanners read -/

/-- Whatever the scanner reads satisfies `P`. -/
def Yields {α : Type} (scan : Scan α) (P : α → Prop) : Prop :=
  ∀ t x rest, scan t = some (x, rest) → P x

section Yields

variable {α β : Type} {m n : Scan α} {f : α → Scan β} {P Q : α → Prop} {R : β → Prop}

theorem yields_pure {x : α} (h : P x) : Yields (pure x) P := by
  intro t y rest hread
  obtain ⟨rfl, -⟩ := Prod.mk.inj (Option.some.inj hread)
  exact h

theorem yields_failure : Yields (failure : Scan α) P := by
  intro t x rest hread
  exact absurd hread (Option.some_ne_none _).symm

theorem Yields.bind (hm : Yields m Q) (hf : ∀ x, Q x → Yields (f x) R) : Yields (m >>= f) R := by
  intro t y rest hread
  rw [bind_apply, Option.bind_eq_some_iff] at hread
  obtain ⟨⟨x, behind⟩, hx, hy⟩ := hread
  exact hf x (hm t x behind hx) behind y rest hy

/-- What was read before does not matter if nothing is said of it. -/
theorem yields_bind (hf : ∀ x, Yields (f x) R) : Yields (m >>= f) R :=
  Yields.bind (fun _ _ _ _ => trivial) fun x (_ : True) => hf x

theorem Yields.orElse (hm : Yields m P) (hn : Yields n P) : Yields (m <|> n) P := by
  intro t x rest hread
  rw [orElse_apply] at hread
  cases hfirst : m t with
  | none =>
    rw [hfirst] at hread
    exact hn t x rest hread
  | some p =>
    rw [hfirst] at hread
    obtain rfl : p = (x, rest) := Option.some.inj hread
    exact hm t x rest hfirst

theorem Yields.map {g : α → β} (hm : Yields m P) (hg : ∀ x, P x → R (g x)) :
    Yields (g <$> m) R := by
  intro t y rest hread
  rw [map_apply, Option.map_eq_some_iff] at hread
  obtain ⟨⟨x, behind⟩, hx, heq⟩ := hread
  obtain ⟨rfl, -⟩ := Prod.mk.inj heq
  exact hg x (hm t x behind hx)

theorem Yields.optional (hm : Yields m P) : Yields (optional m) fun o => ∀ x ∈ o, P x := by
  refine .orElse (hm.map fun x hx => ?_) (yields_pure (by simp))
  intro y hy
  exact Option.mem_some_iff.1 hy ▸ hx

theorem Yields.repeatUpTo (hm : Yields m P) (bound : Text) :
    Yields (repeatUpTo m bound) fun xs => ∀ x ∈ xs, P x := by
  induction bound with
  | nil => exact yields_pure (by simp)
  | cons _ bound ih =>
    refine .orElse (hm.bind fun x hx => ih.bind fun xs hxs => yields_pure ?_) (yields_pure (by simp))
    exact List.forall_mem_cons.2 ⟨hx, hxs⟩

theorem Yields.repeated (hm : Yields m P) : Yields (repeated m) fun xs => ∀ x ∈ xs, P x :=
  yields_bind fun t => hm.repeatUpTo t

theorem Yields.separated (hm : Yields m P) (sep : Char) :
    Yields (separated sep m) fun xs => ∀ x ∈ xs, P x := by
  have hnext : Yields (char sep *> m) P := yields_bind fun _ => hm
  refine hm.bind fun x hx => hnext.repeated.bind fun xs hxs => yields_pure ?_
  exact List.forall_mem_cons.2 ⟨hx, hxs⟩

end Yields

end CInterface.Toml.Scan

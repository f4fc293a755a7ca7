import CInterface.Workspace.Access
import Mathlib.Data.List.Nodup
import Mathlib.Data.List.Perm.Subperm

namespace CInterface

/-!
# Workspaces — finding names for temporary files

A naming of temporary files may fail.  One that numbers its names and tries more of them than there
are names in the directory never does.  One that fails only because the path of the file would be too
long at least fails whatever stands in the tree.

* `TemporaryNames.Steady` — a directory's place and path tell whether a name is found there.
* `TemporaryNames.Unfailing` — a name is found in every directory.
* `TemporaryNames.unfailing_numbered`, `TemporaryNames.steady_numbered` — numbered names are found in
  every directory.
-/

/-! ### The names in a directory -/

/-- What is found below a folder has its name in the folder at the end of the path. -/
theorem Folder.mem_names_of_find? {path : List Text} {name : Text} {folder : Folder}
    (h : find? (path ++ [name]) folder ≠ none) :
    name ∈ ((folder? path folder).getD []).map Prod.fst := by
  induction path generalizing folder with
  | nil =>
    show name ∈ folder.map Prod.fst
    by_contra hname
    have hnone : folder.lookup name = none := by
      rw [List.lookup_eq_none_iff]
      intro child hchild
      have hne : name ≠ child.1 := by
        rintro rfl
        exact hname (List.mem_map_of_mem hchild)
      exact bne_iff_ne.2 hne
    exact h (by rw [List.nil_append, find?, hnone])
  | cons first path ih =>
    rw [List.cons_append, find?] at h
    rw [folder?]
    cases hl : folder.lookup first with
    | none => simp [hl] at h
    | some n =>
      cases n with
      | file content => simp [hl] at h
      | directory children =>
        rw [hl] at h
        exact ih h

theorem FileTree.mem_names_of_lookup {t : FileTree} {name : Text} {l : Location}
    (h : t.lookup (name :: l) ≠ none) : name ∈ (t.folderAt l).map Prod.fst := by
  rw [lookup, List.reverse_cons] at h
  exact Folder.mem_names_of_find? h

/-! ### Numbers in decimal -/

/-- Leading zeros do not change a number. -/
theorem Text.ofDigitChars_replicate (n : Nat) (t : Text) :
    Nat.ofDigitChars 10 (List.replicate n '0' ++ t) 0 = Nat.ofDigitChars 10 t 0 := by
  induction n with
  | zero => rfl
  | succ n ih =>
    rw [List.replicate_succ, List.cons_append, Nat.ofDigitChars_cons]
    exact ih

/-- A number can be told from its digits. -/
theorem Text.paddedDecimal_injective (width : Nat) : Function.Injective (paddedDecimal width) := by
  intro n m h
  have hvalue : ∀ k, Nat.ofDigitChars 10 (paddedDecimal width k) 0 = k := by
    intro k
    rw [paddedDecimal, ofDigitChars_replicate, decimal, Nat.ofDigitChars_ten_toDigits]
  rw [← hvalue n, ← hvalue m, h]

/-! ### Numbered names -/

namespace TemporaryNames

/-- Whether a temporary file can be named in a directory is told by where the directory is and how
    its path is spelled, and not by what else stands in the tree. -/
def Steady (names : TemporaryNames) : Prop :=
  ∀ {t t' : FileTree} {l : Location} {directory : Text}, t'.lookup l = some .directory →
    (∃ name, names.choose t l directory = .ok name) →
    ∃ name, names.choose t' l directory = .ok name

/-- A temporary file can be named in every directory. -/
def Unfailing (names : TemporaryNames) : Prop :=
  ∀ t l directory, t.lookup l = some .directory → ∃ name, names.choose t l directory = .ok name

theorem Unfailing.steady {names : TemporaryNames} (h : names.Unfailing) : names.Steady :=
  fun hdirectory _ => h _ _ _ hdirectory

/-- No name is found only if all that are tried are taken. -/
theorem lookup_of_firstFree_error {t : FileTree} {l : Location} {tries number : Nat} {e : FileError}
    (h : firstFree t l tries number = .error e) (i : Nat) (hi : i < tries) :
    t.lookup ((".tmp".toList ++ Text.paddedDecimal 6 (number + i)) :: l) ≠ none := by
  induction tries generalizing number i with
  | zero => exact absurd hi (Nat.not_lt_zero i)
  | succ tries ih =>
    rw [firstFree] at h
    split at h
    · exact absurd h (by simp)
    · next htaken =>
      cases i with
      | zero => simpa using htaken
      | succ i =>
        have hnext := ih h i (by omega)
        rwa [show number + 1 + i = number + (i + 1) by omega] at hnext

/-- There are more names to try than are taken. -/
theorem unfailing_numbered : numbered.Unfailing := by
  intro t l directory _
  cases hchoose : numbered.choose t l directory with
  | ok name => exact ⟨name, rfl⟩
  | error e =>
    -- All the names tried are different, and all stand in the directory.
    let name := fun i => ".tmp".toList ++ Text.paddedDecimal 6 (0 + i)
    have hinjective : Function.Injective name := by
      intro i j h
      have hnumber := Text.paddedDecimal_injective 6 (List.append_cancel_left h)
      omega
    have htaken : (List.range ((t.folderAt l).length + 1)).map name
        ⊆ (t.folderAt l).map Prod.fst := by
      intro taken hmem
      obtain ⟨i, hi, rfl⟩ := List.mem_map.1 hmem
      exact FileTree.mem_names_of_lookup
        (lookup_of_firstFree_error hchoose i (List.mem_range.1 hi))
    have hle := (List.subperm_of_subset (List.nodup_range.map hinjective) htaken).length_le
    rw [List.length_map, List.length_range, List.length_map] at hle
    omega

theorem steady_numbered : numbered.Steady :=
  unfailing_numbered.steady

end TemporaryNames

end CInterface

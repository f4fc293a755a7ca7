import CInterface.Text.Basic

namespace CInterface

/-!
# Alias tables

A table from names to names, kept in increasing order of the keys, which is the order of their
code points.  Each key occurs once; the last value put under it counts.
-/

/-- A table from names to names. -/
structure AliasTable where
  /-- The entries, by increasing key. -/
  entries : List (Text × Text)
  /-- The keys increase. -/
  increasing : entries.Pairwise (fun a b => a.1 < b.1)

namespace AliasTable

/-- The entries with `value` put under `key`. -/
def putEntry (key value : Text) : List (Text × Text) → List (Text × Text)
  | [] => [(key, value)]
  | e :: rest =>
    if key < e.1 then (key, value) :: e :: rest
    else if e.1 < key then e :: putEntry key value rest
    else (key, value) :: rest

theorem mem_putEntry {key value : Text} {es : List (Text × Text)} {e : Text × Text}
    (h : e ∈ putEntry key value es) : e = (key, value) ∨ e ∈ es := by
  induction es with
  | nil => simpa [putEntry] using h
  | cons a rest ih =>
    rw [putEntry] at h
    split at h
    · simpa using h
    · split at h
      · rcases List.mem_cons.1 h with h | h
        · exact .inr (by simp [h])
        · exact (ih h).imp id (List.mem_cons_of_mem _)
      · rcases List.mem_cons.1 h with h | h
        · exact .inl h
        · exact .inr (List.mem_cons_of_mem _ h)

theorem pairwise_putEntry (key value : Text) {es : List (Text × Text)}
    (h : es.Pairwise (fun a b => a.1 < b.1)) :
    (putEntry key value es).Pairwise (fun a b => a.1 < b.1) := by
  induction es with
  | nil => simp [putEntry]
  | cons a rest ih =>
    obtain ⟨ha, hr⟩ := List.pairwise_cons.1 h
    rw [putEntry]
    split
    · next hlt =>
      refine List.pairwise_cons.2 ⟨fun e he => ?_, h⟩
      rcases List.mem_cons.1 he with rfl | he
      · exact hlt
      · exact List.lt_trans hlt (ha e he)
    · next hnlt =>
      split
      · next hgt =>
        refine List.pairwise_cons.2 ⟨fun e he => ?_, ih hr⟩
        rcases mem_putEntry he with rfl | he
        · exact hgt
        · exact ha e he
      · next hngt =>
        have hkey : key = a.1 := List.le_antisymm (List.not_lt.1 hngt) (List.not_lt.1 hnlt)
        exact List.pairwise_cons.2 ⟨fun e he => hkey ▸ ha e he, hr⟩

/-- The table without entries. -/
def empty : AliasTable := ⟨[], .nil⟩

/-- The table with `value` put under `key`. -/
def put (t : AliasTable) (key value : Text) : AliasTable :=
  ⟨putEntry key value t.entries, pairwise_putEntry key value t.increasing⟩

/-- The table that results from putting the pairs one after the other. -/
def ofList (pairs : List (Text × Text)) : AliasTable :=
  pairs.foldl (fun t p => t.put p.1 p.2) empty

end AliasTable

end CInterface

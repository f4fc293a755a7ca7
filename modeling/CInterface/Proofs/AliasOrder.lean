import CInterface.AliasTable
import Mathlib.Data.List.Nodup

namespace CInterface

/-!
# Alias tables — contents and order

A table is known by its entries alone: in which order they were put into it does not matter, and the
order in which it keeps them is at once that of the code points and that of the UTF-8 bytes.

* `Text.utf8Bytes_lt_iff` — texts compare as their bytes do.
* `AliasTable.mem_put` — putting an entry replaces the one with its key and no other.
* `AliasTable.ofList_eq_iff` — the lists that make up a table are the listings of its entries.
* `AliasTable.pairwise_utf8Bytes` — the keys increase byte by byte.
-/

namespace Text

/-! ### The order of the bytes -/

/-- The bytes of a text in UTF-8. -/
def utf8Bytes (t : Text) : List UInt8 :=
  t.string.toByteArray.data.toList

theorem utf8Bytes_eq_flatMap (t : Text) : utf8Bytes t = t.flatMap String.utf8EncodeChar := by
  show (String.ofList t).toByteArray.data.toList = _
  rw [String.toByteArray_ofList, List.utf8Encode]
  exact List.toList_data_toByteArray

/-- The bytes of two characters tell already which one is smaller, whatever follows them. -/
theorem utf8EncodeChar_append_lt {a b : Char} (h : a < b) (s t : List UInt8) :
    String.utf8EncodeChar a ++ s < String.utf8EncodeChar b ++ t := by
  have hlt : a.val.toNat < b.val.toNat := h
  have hb : b.val.toNat < 0x110000 := by
    have hvalid : b.val.toNat < 0xd800 ∨ 0xdfff < b.val.toNat ∧ b.val.toNat < 0x110000 := b.valid
    omega
  unfold String.utf8EncodeChar
  dsimp only
  generalize a.val.toNat = m at *
  generalize b.val.toNat = n at *
  -- Each byte behind the first holds one digit in base 64, and the digits compare as the numbers.
  have htwo : ∀ k : Nat, k / 4096 = k / 64 / 64 := by omega
  have hthree : ∀ k : Nat, k / 262144 = k / 64 / 64 / 64 := by omega
  simp only [htwo, hthree]
  -- A longer code begins with a larger byte; codes of one length are compared digit by digit.
  split_ifs <;>
    simp only [List.cons_append, List.nil_append, List.cons_lt_cons_iff, UInt8.lt_iff_toNat_lt,
      ← UInt8.toNat_inj, UInt8.toNat_ofNat'] <;>
    omega

theorem utf8Bytes_lt_of_lt {a b : Text} (h : a < b) : utf8Bytes a < utf8Bytes b := by
  rw [utf8Bytes_eq_flatMap, utf8Bytes_eq_flatMap]
  induction h with
  | @nil c b =>
    obtain ⟨byte, bytes, hcode⟩ := List.exists_cons_of_ne_nil (String.utf8EncodeChar_ne_nil (c := c))
    rw [List.flatMap_nil, List.flatMap_cons, hcode]
    exact List.nil_lt_cons _ _
  | rel hlt =>
    rw [List.flatMap_cons, List.flatMap_cons]
    exact utf8EncodeChar_append_lt hlt _ _
  | cons _ ih =>
    rw [List.flatMap_cons, List.flatMap_cons]
    exact List.append_left_lt ih

/-- Texts compare as their bytes do. -/
theorem utf8Bytes_lt_iff {a b : Text} : utf8Bytes a < utf8Bytes b ↔ a < b := by
  refine ⟨fun h => ?_, utf8Bytes_lt_of_lt⟩
  by_contra hnot
  rcases List.le_iff_lt_or_eq.1 (List.not_lt.1 hnot) with hlt | rfl
  · exact List.lt_irrefl _ (List.lt_trans h (utf8Bytes_lt_of_lt hlt))
  · exact List.lt_irrefl _ h

end Text

namespace AliasTable

/-! ### The entries of a table -/

theorem mem_putEntry_iff {key value : Text} {es : List (Text × Text)} {e : Text × Text}
    (h : es.Pairwise fun a b => a.1 < b.1) :
    e ∈ putEntry key value es ↔ e = (key, value) ∨ e ∈ es ∧ e.1 ≠ key := by
  induction es with
  | nil => simp [putEntry]
  | cons a rest ih =>
    obtain ⟨ha, hrest⟩ := List.pairwise_cons.1 h
    rw [putEntry]
    split_ifs with hbelow habove
    · -- The key is below all others.
      have hne : e ∈ a :: rest → e.1 ≠ key := by
        rintro hmem rfl
        rcases List.mem_cons.1 hmem with rfl | hmem
        · exact List.lt_irrefl _ hbelow
        · exact List.lt_irrefl _ (List.lt_trans hbelow (ha e hmem))
      rw [List.mem_cons, and_iff_left_of_imp hne]
    · have hne : a.1 ≠ key := fun heq => List.lt_irrefl _ (heq ▸ habove)
      rw [List.mem_cons, ih hrest, List.mem_cons]
      refine ⟨?_, ?_⟩
      · rintro (rfl | rfl | ⟨hmem, hkey⟩)
        · exact .inr ⟨.inl rfl, hne⟩
        · exact .inl rfl
        · exact .inr ⟨.inr hmem, hkey⟩
      · rintro (rfl | ⟨rfl | hmem, hkey⟩)
        · exact .inr (.inl rfl)
        · exact .inl rfl
        · exact .inr (.inr ⟨hmem, hkey⟩)
    · -- The key is that of `a`, whose entry goes.
      have hkey : key = a.1 := List.le_antisymm (List.not_lt.1 habove) (List.not_lt.1 hbelow)
      have hne : e ∈ rest → e.1 ≠ key := by
        rintro hmem rfl
        exact List.lt_irrefl _ (hkey ▸ ha e hmem)
      rw [List.mem_cons, List.mem_cons]
      refine or_congr_right ⟨fun hmem => ⟨.inr hmem, hne hmem⟩, ?_⟩
      rintro ⟨rfl | hmem, hother⟩
      · exact absurd hkey.symm hother
      · exact hmem

/-- Putting an entry replaces the one with its key and no other. -/
theorem mem_put {t : AliasTable} {key value : Text} {e : Text × Text} :
    e ∈ (t.put key value).entries ↔ e = (key, value) ∨ e ∈ t.entries ∧ e.1 ≠ key :=
  mem_putEntry_iff t.increasing

/-- Entries with different keys all stay, whatever the order in which they are put. -/
theorem mem_foldl_put {pairs : List (Text × Text)} (hkeys : (pairs.map Prod.fst).Nodup)
    {t : AliasTable} {e : Text × Text} :
    e ∈ (pairs.foldl (fun t p => t.put p.1 p.2) t).entries ↔
      e ∈ pairs ∨ e ∈ t.entries ∧ e.1 ∉ pairs.map Prod.fst := by
  induction pairs generalizing t with
  | nil => simp
  | cons p pairs ih =>
    obtain ⟨hp, hrest⟩ := List.nodup_cons.1 hkeys
    rw [List.foldl_cons, ih hrest, mem_put, List.map_cons, List.mem_cons, List.mem_cons]
    refine ⟨?_, ?_⟩
    · rintro (hmem | ⟨rfl | ⟨hmem, hkey⟩, hnot⟩)
      · exact .inl (.inr hmem)
      · exact .inl (.inl rfl)
      · exact .inr ⟨hmem, not_or.2 ⟨hkey, hnot⟩⟩
    · rintro ((rfl | hmem) | ⟨hmem, hnot⟩)
      -- The entry itself is not replaced by one of those behind it.
      · exact .inr ⟨.inl rfl, hp⟩
      · exact .inl hmem
      · obtain ⟨hkey, hnot⟩ := not_or.1 hnot
        exact .inr ⟨.inr ⟨hmem, hkey⟩, hnot⟩

theorem mem_ofList {pairs : List (Text × Text)} (hkeys : (pairs.map Prod.fst).Nodup)
    {e : Text × Text} : e ∈ (ofList pairs).entries ↔ e ∈ pairs := by
  unfold ofList
  rw [mem_foldl_put hkeys]
  simp [empty]

theorem nodup_entries (t : AliasTable) : t.entries.Nodup := by
  refine t.increasing.imp fun hlt heq => ?_
  exact List.lt_irrefl _ (heq ▸ hlt)

/-- A table is known by its entries, in whatever order they are listed. -/
theorem eq_of_perm {s t : AliasTable} (h : s.entries.Perm t.entries) : s = t := by
  have hentries : s.entries = t.entries := by
    refine h.eq_of_pairwise ?_ s.increasing t.increasing
    intro a b _ _ hab hba
    exact absurd (List.lt_trans hab hba) (List.lt_irrefl _)
  obtain ⟨es, hs⟩ := s
  obtain ⟨fs, ht⟩ := t
  obtain rfl : es = fs := hentries
  rfl

/-- The lists that make up a table are the listings of its entries. -/
theorem ofList_eq_iff {pairs : List (Text × Text)} (hkeys : (pairs.map Prod.fst).Nodup)
    {t : AliasTable} : ofList pairs = t ↔ pairs.Perm t.entries := by
  have hperm : pairs.Perm (ofList pairs).entries :=
    (List.perm_ext_iff_of_nodup hkeys.of_map (nodup_entries _)).2 fun _ => (mem_ofList hkeys).symm
  refine ⟨?_, fun h => eq_of_perm (hperm.symm.trans h)⟩
  rintro rfl
  exact hperm

/-- The keys increase byte by byte. -/
theorem pairwise_utf8Bytes (t : AliasTable) :
    t.entries.Pairwise fun a b => Text.utf8Bytes a.1 < Text.utf8Bytes b.1 :=
  t.increasing.imp Text.utf8Bytes_lt_iff.2

end AliasTable

end CInterface

import CInterface.Proofs.GenerationEffects

namespace CInterface

/-!
# Workspaces — where paths lead

A path is followed step by step and may stop at each of them.  Where its steps lead is a matter of
the path alone; whether they can be taken depends on what stands at the locations on the way.

* `Workspace.goal`, `Workspace.way` — the location that a path names, and the locations that its
  steps start from.
* `Workspace.Reaches` — a path can be followed to a location.
* `Workspace.locate_eq_ok_iff` — following succeeds exactly then.
* `Workspace.Holds` — a path leads to a file with a text in UTF-8.
* `Workspace.readText_eq_ok_iff` — reading succeeds exactly then, with that text.
-/

/-! ### Steps -/

namespace Step

/-- The location that a step leads to, whether or not something stands there. -/
def follow (l : Location) : Step → Location
  | here => l
  | up => l.tail
  | down name => name :: l

/-- The name of the step, if it has one, is not too long. -/
def Fits : Step → Prop
  | here | up => True
  | down name => Text.utf8Length name ≤ Workspace.maxNameLength

end Step

namespace Workspace

/-- The location that steps lead to one after the other. -/
def arrive (l : Location) (steps : List Step) : Location :=
  steps.foldl Step.follow l

/-- The locations that the steps start from. -/
def origins : Location → List Step → List Location
  | _, [] => []
  | l, step :: steps => l :: origins (step.follow l) steps

theorem arrive_concat (l : Location) (steps : List Step) (last : Step) :
    arrive l (steps ++ [last]) = last.follow (arrive l steps) := by
  rw [arrive, List.foldl_append]
  rfl

theorem origins_concat (l : Location) (steps : List Step) (last : Step) :
    origins l (steps ++ [last]) = origins l steps ++ [arrive l steps] := by
  induction steps generalizing l with
  | nil => rfl
  | cons step steps ih =>
    rw [List.cons_append, origins, origins, ih, List.cons_append]
    rfl

/-- A step leads to its location only. -/
theorem Leads.eq_follow {t : FileTree} {l k : Location} {step : Step} (h : Leads t l step k) :
    k = step.follow l ∧ step.Fits := by
  cases step with
  | here => exact ⟨h, trivial⟩
  | up => exact ⟨h, trivial⟩
  | down name => exact ⟨h.2.2, h.1⟩

theorem leads_follow {t : FileTree} {l : Location} {step : Step} (hfits : step.Fits)
    (hstands : t.lookup (step.follow l) ≠ none) : Leads t l step (step.follow l) := by
  cases step with
  | here => rfl
  | up => rfl
  | down name => exact ⟨hfits, hstands, rfl⟩

/-- Something stands at the start of a way through directories to something that stands. -/
theorem lookup_ne_none_of_origins {t : FileTree} {l : Location} {steps : List Step}
    (hdirs : ∀ k ∈ origins l steps, t.lookup k = some .directory)
    (hend : t.lookup (arrive l steps) ≠ none) : t.lookup l ≠ none := by
  cases steps with
  | nil => exact hend
  | cons step steps =>
    have hl : t.lookup l = some .directory := hdirs l List.mem_cons_self
    simp [hl]

/-- The steps can be taken to something that stands exactly if each of them starts from a
    directory. -/
theorem walk_eq_ok_iff {t : FileTree} {l m : Location} {steps : List Step}
    (hm : t.lookup m ≠ none) :
    walk t l steps = .ok m ↔ arrive l steps = m ∧
      (∀ k ∈ origins l steps, t.lookup k = some .directory) ∧ ∀ step ∈ steps, step.Fits := by
  induction steps generalizing l with
  | nil =>
    have hwalk : walk t l [] = .ok l := rfl
    simp [hwalk, arrive, origins]
  | cons step steps ih =>
    rw [walk_cons_eq_ok_iff]
    constructor
    · rintro ⟨hl, k, hk, hwalk⟩
      obtain ⟨rfl, hfits⟩ := hk.eq_follow
      obtain ⟨hend, hdirs, hrest⟩ := ih.1 hwalk
      exact ⟨hend, List.forall_mem_cons.2 ⟨hl, hdirs⟩, List.forall_mem_cons.2 ⟨hfits, hrest⟩⟩
    · rintro ⟨hend, hdirs, hfits⟩
      obtain ⟨hl, hdirs⟩ := List.forall_mem_cons.1 hdirs
      obtain ⟨hstep, hfits⟩ := List.forall_mem_cons.1 hfits
      have hend' : arrive (step.follow l) steps = m := hend
      -- Behind the step the way goes on through directories, so it leads to something.
      have hstands : t.lookup (step.follow l) ≠ none :=
        lookup_ne_none_of_origins hdirs (by rwa [hend'])
      exact ⟨hl, step.follow l, leads_follow hstep hstands, ih.2 ⟨hend', hdirs, hfits⟩⟩

/-! ### Texts of paths -/

/-- A text that a path can have: it is not empty, has no NUL character and is not too long. -/
structure Legal (t : Text) : Prop where
  ne_nil : t ≠ []
  nul_not_mem : '\x00' ∉ t
  length_le : Text.utf8Length t ≤ maxPathLength

theorem hasNul_eq_false_iff {t : Text} : hasNul t = false ↔ '\x00' ∉ t := by
  simp only [hasNul, List.any_eq_false, beq_iff_eq]
  constructor
  · intro h hmem
    exact h _ hmem rfl
  · rintro h c hc rfl
    exact h hc

theorem checkLength_eq_ok_iff {t : Text} :
    checkLength t = .ok () ↔ t ≠ [] ∧ Text.utf8Length t ≤ maxPathLength := by
  rw [checkLength]
  by_cases hnil : t = []
  · simp [hnil]
  · by_cases hlong : maxPathLength < Text.utf8Length t
    · simp [hnil, hlong, Nat.not_le.2 hlong]
    · simp [hnil, hlong, Nat.le_of_not_lt hlong]

theorem checkText_eq_ok_iff {t : Text} : checkText t = .ok () ↔ Legal t := by
  rw [checkText]
  cases hnul : hasNul t with
  | true =>
    have hmem : ¬ '\x00' ∉ t := fun h => by simp [hasNul_eq_false_iff.2 h] at hnul
    simp only [if_true]
    exact ⟨fun h => absurd h (by simp), fun h => absurd h.nul_not_mem hmem⟩
  | false =>
    have hmem := hasNul_eq_false_iff.1 hnul
    rw [if_neg (by simp), checkLength_eq_ok_iff]
    exact ⟨fun h => ⟨h.1, hmem, h.2⟩, fun h => ⟨h.ne_nil, h.length_le⟩⟩

/-! ### Following a path -/

/-- The location that a path names, whether or not something stands there. -/
def goal (w : Workspace) (t : Text) : Location :=
  arrive (w.start (Path.ofText t)) (Path.ofText t).steps

/-- The locations that the steps of a path start from. -/
def way (w : Workspace) (t : Text) : List Location :=
  origins (w.start (Path.ofText t)) (Path.ofText t).steps

/-- A path can be followed to a location: every step starts from a directory, and something stands
    at the end, which is a directory if the path ends in `/`. -/
structure Reaches (w : Workspace) (t : Text) (l : Location) : Prop where
  legal : Legal t
  fits : ∀ step ∈ (Path.ofText t).steps, step.Fits
  goal_eq : w.goal t = l
  directories : ∀ k ∈ w.way t, w.tree.lookup k = some .directory
  stands : w.tree.lookup l ≠ none
  slash : (Path.ofText t).slash = true → w.tree.lookup l = some .directory

theorem locate_eq_ok_iff {w : Workspace} {t : Text} {l : Location} :
    w.locate t = .ok l ↔ w.Reaches t l := by
  constructor
  · intro h
    obtain ⟨_, hcheck, h⟩ := bind_eq_ok_iff.1 h
    obtain ⟨m, hwalk, h⟩ := bind_eq_ok_iff.1 h
    have hfound : m = l ∧ w.tree.lookup m ≠ none ∧
        ((Path.ofText t).slash = true → w.tree.lookup m = some .directory) := by
      cases hm : w.tree.lookup m with
      | none => simp [hm] at h
      | some e =>
        cases e with
        | file content =>
          cases hslash : (Path.ofText t).slash with
          | true => simp [hm, hslash] at h
          | false => simpa [hm, hslash] using h
        | directory => simpa [hm] using h
    obtain ⟨rfl, hstands, hslash⟩ := hfound
    obtain ⟨hgoal, hdirs, hfits⟩ := (walk_eq_ok_iff hstands).1 hwalk
    exact ⟨checkText_eq_ok_iff.1 hcheck, hfits, hgoal, hdirs, hstands, hslash⟩
  · intro h
    have hwalk : walk w.tree (w.start (Path.ofText t)) (Path.ofText t).steps = .ok l :=
      (walk_eq_ok_iff h.stands).2 ⟨h.goal_eq, h.directories, h.fits⟩
    refine bind_eq_ok_iff.2 ⟨(), checkText_eq_ok_iff.2 h.legal, bind_eq_ok_iff.2 ⟨l, hwalk, ?_⟩⟩
    have hstands := h.stands
    have hslash := h.slash
    cases hl : w.tree.lookup l with
    | none => exact absurd hl hstands
    | some e =>
      cases e with
      | directory => rfl
      | file content =>
        have hnone : (Path.ofText t).slash = false := by simpa [hl] using hslash
        simp [hnone]

/-- A path leads to something exactly if it can be followed. -/
theorem pathExists_iff {w : Workspace} {path : Text} :
    w.pathExists path = true ↔ ∃ l, w.Reaches path l := by
  unfold pathExists
  cases hlocate : w.locate path with
  | ok l => exact ⟨fun _ => ⟨l, locate_eq_ok_iff.1 hlocate⟩, fun _ => rfl⟩
  | error e =>
    refine ⟨fun h => absurd h (by simp), ?_⟩
    rintro ⟨l, hreaches⟩
    rw [locate_eq_ok_iff.2 hreaches] at hlocate
    exact absurd hlocate (by simp)

/-! ### Reading texts -/

/-- A path leads to a file whose content is a text in UTF-8. -/
def Holds (w : Workspace) (path text : Text) : Prop :=
  ∃ l, w.Reaches path l ∧ w.tree.lookup l = some (.file (encodeText text))

/-- Only the bytes of a text are read as that text. -/
theorem decodeText_eq_ok_iff {content : ByteArray} {t : Text} :
    decodeText content = .ok t ↔ content = encodeText t := by
  constructor
  · intro h
    rw [decodeText] at h
    split at h
    · next s hs =>
      obtain rfl : s.toList = t := Except.ok.inj h
      rw [String.fromUTF8?] at hs
      split at hs
      · obtain rfl := Option.some.inj hs
        rw [encodeText, Text.string, String.ofList_toList]
        rfl
      · exact absurd hs (by simp)
    · exact absurd h (by simp)
  · rintro rfl
    exact decodeText_encodeText t

theorem read_eq_ok_iff {w : Workspace} {path : Text} {content : ByteArray} :
    w.read path = .ok content ↔
      ∃ l, w.Reaches path l ∧ w.tree.lookup l = some (.file content) := by
  constructor
  · intro h
    obtain ⟨l, hl, h⟩ := bind_eq_ok_iff.1 h
    refine ⟨l, locate_eq_ok_iff.1 hl, ?_⟩
    cases hfile : w.tree.lookup l with
    | none => simp [hfile] at h
    | some e =>
      cases e with
      | file found =>
        obtain rfl : found = content := by simpa [hfile] using h
        rfl
      | directory => simp [hfile] at h
  · rintro ⟨l, hreaches, hfile⟩
    refine bind_eq_ok_iff.2 ⟨l, locate_eq_ok_iff.2 hreaches, ?_⟩
    simp [hfile]

/-- Reading succeeds exactly if the path leads to a file with a text, and yields that text. -/
theorem readText_eq_ok_iff {w : Workspace} {path text : Text} :
    w.readText path = .ok text ↔ w.Holds path text := by
  constructor
  · intro h
    obtain ⟨content, hread, hdecode⟩ := bind_eq_ok_iff.1 h
    obtain rfl := decodeText_eq_ok_iff.1 hdecode
    exact read_eq_ok_iff.1 hread
  · intro h
    exact bind_eq_ok_iff.2 ⟨encodeText text, read_eq_ok_iff.2 h, decodeText_encodeText text⟩

/-- What holds a text can be read. -/
theorem Holds.readText_ne_error {w : Workspace} {path text : Text} (h : w.Holds path text)
    {cause : FileError} : w.readText path ≠ .error cause := by
  rw [readText_eq_ok_iff.2 h]
  simp

/-- A path holds one text only. -/
theorem Holds.unique {w : Workspace} {path text text' : Text} (h : w.Holds path text)
    (h' : w.Holds path text') : text = text' := by
  have hread := readText_eq_ok_iff.2 h
  rw [readText_eq_ok_iff.2 h'] at hread
  exact (Except.ok.inj hread).symm

end Workspace

end CInterface

import CInterface.Proofs.GenerationInputs

namespace CInterface

/-!
# Generation — independent generations

Two generations whose paths keep out of each other's way can be run in either order, and running
one of them again changes nothing.  Each makes directories and puts a file into the tree, and what
the other one meets on its way afterwards is at most a directory more.

* `Path.Ordinary`, `Path.Apart` — paths of names only, and paths of which none lies inside the other.
* `Workspace.Holds.of_lookup_goal` — what an ordinary path holds is told by its own location.
* `Workspace.Room.withFile`, `Workspace.Room.of_withFile` — room for a file before and after another
  file is put into the tree.
* `Request.Independent` — two requests that keep out of each other's way.
* `generate_comm` — independent generations commute, and repeating them changes nothing.
-/

/-! ### Paths of names -/

namespace Path

/-- A path of names only, taken from the working directory. -/
def Ordinary (p : Path) : Prop :=
  p.absolute = false ∧ ∀ step ∈ p.steps, step ≠ .here ∧ step ≠ .up

instance (p : Path) : Decidable p.Ordinary :=
  inferInstanceAs (Decidable (_ ∧ _))

/-- Neither path is the other one or leads through it. -/
def Apart (p q : Path) : Prop :=
  ¬ p.steps <+: q.steps ∧ ¬ q.steps <+: p.steps

instance (p q : Path) : Decidable (p.Apart q) :=
  inferInstanceAs (Decidable (_ ∧ _))

theorem Apart.symm {p q : Path} (h : p.Apart q) : q.Apart p :=
  ⟨h.2, h.1⟩

/-- The steps of an ordinary path are those to its names. -/
theorem Ordinary.steps_eq {p : Path} (h : p.Ordinary) :
    p.steps = (p.steps.map Step.name).map .down := by
  rw [List.map_map]
  conv => lhs; rw [← List.map_id p.steps]
  refine List.map_congr_left fun step hstep => ?_
  cases step with
  | here => exact absurd rfl (h.2 _ hstep).1
  | up => exact absurd rfl (h.2 _ hstep).2
  | down name => rfl

end Path

namespace Workspace

theorem arrive_down (l : Location) (names : List Text) :
    arrive l (names.map .down) = names.reverse ++ l := by
  induction names generalizing l with
  | nil => rfl
  | cons name names ih =>
    show arrive (name :: l) (names.map .down) = _
    rw [ih, List.reverse_cons, List.append_assoc]
    rfl

/-- On the way down each location lies above the end. -/
theorem origins_down {l k : Location} {names : List Text} (h : k ∈ origins l (names.map .down)) :
    ∃ front, front ≠ [] ∧ names.reverse ++ l = front ++ k := by
  induction names generalizing l with
  | nil => simp [origins] at h
  | cons name names ih =>
    have hcons : (name :: names).reverse ++ l = names.reverse ++ name :: l := by simp
    rcases List.mem_cons.1 h with rfl | h
    · exact ⟨(name :: names).reverse, by simp, rfl⟩
    · obtain ⟨front, hne, heq⟩ := ih h
      exact ⟨front, hne, hcons.trans heq⟩

section Ordinary

variable {w : Workspace} {path : Text}

theorem goal_ordinary (h : (Path.ofText path).Ordinary) :
    w.goal path = ((Path.ofText path).steps.map Step.name).reverse ++ w.cwd := by
  have hstart : w.start (Path.ofText path) = w.cwd := by simp [start, h.1]
  rw [goal, hstart]
  conv => lhs; rw [h.steps_eq]
  exact arrive_down _ _

/-- An ordinary path leads down to its location. -/
theorem way_ordinary (h : (Path.ofText path).Ordinary) {k : Location} (hk : k ∈ w.way path) :
    ∃ front, front ≠ [] ∧ w.goal path = front ++ k := by
  have hstart : w.start (Path.ofText path) = w.cwd := by simp [start, h.1]
  rw [way, hstart, h.steps_eq] at hk
  rw [goal_ordinary h]
  exact origins_down hk

/-- Above all that stands there are directories. -/
theorem lookup_of_lookup_append {t : FileTree} {front k : Location} (hne : front ≠ [])
    (h : t.lookup (front ++ k) ≠ none) : t.lookup k = some .directory := by
  induction front with
  | nil => exact absurd rfl hne
  | cons name front ih =>
    have habove : t.lookup (front ++ k) = some .directory :=
      FileTree.lookup_tail_of_isSome (Option.isSome_iff_ne_none.2 h)
    by_cases hfront : front = []
    · subst hfront
      exact habove
    · exact ih hfront (by simp [habove])

/-- What an ordinary path holds is told by what stands at its own location: the way there needs no
    look, since above all that stands there are directories. -/
theorem Holds.of_lookup_goal {text : Text} {tree : FileTree} (hordinary : (Path.ofText path).Ordinary)
    (h : w.Holds path text) (hsame : tree.lookup (w.goal path) = w.tree.lookup (w.goal path)) :
    { w with tree := tree }.Holds path text := by
  obtain ⟨l, hreaches, hfile⟩ := h
  obtain rfl := hreaches.goal_eq
  have hfile' : tree.lookup (w.goal path) = some (.file (encodeText text)) := hsame.trans hfile
  refine ⟨w.goal path, ⟨hreaches.legal, hreaches.fits, rfl, ?_, ?_, ?_⟩, hfile'⟩
  · intro k hk
    obtain ⟨front, hne, hgoal⟩ := way_ordinary hordinary hk
    have hgoal' : w.goal path = front ++ k := hgoal
    rw [hgoal'] at hfile'
    exact lookup_of_lookup_append hne (by simp [hfile'])
  · simp [hfile']
  · intro hslash
    have hdir := hreaches.slash hslash
    simp [hfile] at hdir

/-- A path that is apart from another one names a location that a file written to the other one does
    not touch. -/
theorem not_touched_of_apart {other : Text} (hpath : (Path.ofText path).Ordinary)
    (hother : (Path.ofText other).Ordinary) (h : (Path.ofText path).Apart (Path.ofText other)) :
    w.goal path ≠ w.goal other ∧ w.goal path ∉ w.way other := by
  -- A location above the other one would make the path one that the other leads through.
  have habove : ∀ front, w.goal other ≠ front ++ w.goal path := by
    intro front heq
    rw [goal_ordinary hpath, goal_ordinary hother, ← List.append_assoc] at heq
    have hnames := List.append_cancel_right heq
    have hsuffix : ((Path.ofText path).steps.map Step.name).reverse
        <:+ ((Path.ofText other).steps.map Step.name).reverse := ⟨front, hnames.symm⟩
    have hprefix := (List.reverse_suffix.1 hsuffix).map Step.down
    rw [← hpath.steps_eq, ← hother.steps_eq] at hprefix
    exact h.1 hprefix
  refine ⟨fun heq => habove [] heq.symm, fun hmem => ?_⟩
  obtain ⟨front, -, hgoal⟩ := way_ordinary hother hmem
  exact habove front hgoal

end Ordinary

end Workspace

/-! ### Trees with a file put in -/

namespace FileTree

/-- The same stands at every location. -/
def Same (t u : FileTree) : Prop :=
  ∀ l, t.lookup l = u.lookup l

section WithFile

variable {t u v : FileTree} {way way' : List Location} {place place' : Location}
  {content content' : ByteArray}

theorem WithFile.lookup_place (h : t.WithFile way place content u) :
    u.lookup place = some (.file content) := by
  rw [h, if_pos rfl]

theorem WithFile.lookup_way (h : t.WithFile way place content u) {k : Location} (hne : k ≠ place)
    (hk : k ∈ way) : u.lookup k = some .directory := by
  rw [h, if_neg hne, if_pos hk]

theorem WithFile.lookup_of_not_touched (h : t.WithFile way place content u) {k : Location}
    (hne : k ≠ place) (hk : k ∉ way) : u.lookup k = t.lookup k := by
  rw [h, if_neg hne, if_neg hk]

/-- Two files are put in in either order, if neither lies on the way to the other. -/
theorem WithFile.comm {t₁ t₂ t₁₂ t₂₁ : FileTree} (h₁ : t.WithFile way place content t₁)
    (h₁₂ : t₁.WithFile way' place' content' t₁₂) (h₂ : t.WithFile way' place' content' t₂)
    (h₂₁ : t₂.WithFile way place content t₂₁) (hne : place ≠ place') (hplace : place ∉ way')
    (hplace' : place' ∉ way) : t₁₂.Same t₂₁ := by
  intro k
  rw [h₁₂, h₁, h₂₁, h₂]
  by_cases hk : k = place
  · subst hk
    simp [hne, hplace]
  · by_cases hk' : k = place'
    · subst hk'
      simp [hk, hplace']
    · by_cases hway : k ∈ way <;> by_cases hway' : k ∈ way' <;> simp [hk, hk', hway, hway']

/-- A file that stands already, below directories, changes nothing when it is put in again. -/
theorem WithFile.same (h : t.WithFile way place content u)
    (hplace : t.lookup place = some (.file content))
    (hway : ∀ k ∈ way, k ≠ place → t.lookup k = some .directory) : t.Same u := by
  intro k
  rw [h]
  by_cases hk : k = place
  · rw [if_pos hk, hk, hplace]
  · by_cases hmem : k ∈ way
    · rw [if_neg hk, if_pos hmem, hway k hmem hk]
    · rw [if_neg hk, if_neg hmem]

end WithFile

end FileTree

/-! ### Room beside another file -/

namespace Workspace

section Beside

variable {w : Workspace} {path : Text} {tree : FileTree} {way : List Location} {place : Location}
  {content : ByteArray}

/-- Room for a file is still there with another file in the tree, if that is neither on the way nor
    has its own way through the place. -/
theorem Room.withFile (h : w.Room path) (hfile : w.tree.WithFile way place content tree)
    (hplace : place ∉ w.way path) (hgoal : w.goal path ∉ way) :
    { w with tree := tree }.Room path := by
  have hoff : ∀ k ∈ w.way path, k ≠ place := by
    rintro k hk rfl
    exact hplace hk
  refine ⟨h.legal, h.fits, h.slash, h.named, ?_, ?_, h.goal_not_mem, ?_⟩
  · have hne := hoff _ h.start_mem_way
    by_cases hway : w.start (Path.ofText path) ∈ way
    · exact hfile.lookup_way hne hway
    · exact (hfile.lookup_of_not_touched hne hway).trans h.start_directory
  · intro k hk found hfound
    have hlookup : tree.lookup k = some (.file found) := hfound
    by_cases hway : k ∈ way
    · rw [hfile.lookup_way (hoff k hk) hway] at hlookup
      exact absurd hlookup (by simp)
    · rw [hfile.lookup_of_not_touched (hoff k hk) hway] at hlookup
      exact h.clear k hk found hlookup
  · show tree.lookup (w.goal path) ≠ some .directory
    by_cases heq : w.goal path = place
    · rw [heq, hfile.lookup_place]
      simp
    · rw [hfile.lookup_of_not_touched heq hgoal]
      exact h.goal_no_directory

/-- Room for a file was there before another file was put into the tree, if there was room for that
    one. -/
theorem Room.of_withFile {other : Text} (h : { w with tree := tree }.Room path)
    (hother : w.Room other)
    (hfile : w.tree.WithFile (w.way other) (w.goal other) content tree)
    (hstart : w.tree.lookup (w.start (Path.ofText path)) = some .directory) : w.Room path := by
  refine ⟨h.legal, h.fits, h.slash, h.named, hstart, ?_, h.goal_not_mem, ?_⟩
  · intro k hk found hfound
    by_cases hplace : k = w.goal other
    · subst hplace
      exact h.clear _ hk content hfile.lookup_place
    · by_cases hway : k ∈ w.way other
      · exact hother.clear k hway found hfound
      · refine h.clear k hk found ?_
        exact (hfile.lookup_of_not_touched hplace hway).trans hfound
  · intro hdir
    by_cases hplace : w.goal path = w.goal other
    · rw [hplace] at hdir
      exact hother.goal_no_directory hdir
    · refine h.goal_no_directory ?_
      by_cases hway : w.goal path ∈ w.way other
      · exact hfile.lookup_way hplace hway
      · exact (hfile.lookup_of_not_touched hplace hway).trans hdir

end Beside

end Workspace

/-! ### Requests whose inputs are left alone -/

namespace Request

/-- A file written to the path leaves the inputs of the request alone. -/
structure InputsApart (r : Request) (path : Text) : Prop where
  ordinary : (Path.ofText path).Ordinary
  interface_ordinary : (Path.ofText r.interfacePath).Ordinary
  types_ordinary : (Path.ofText r.typesPath).Ordinary
  interface_apart : (Path.ofText r.interfacePath).Apart (Path.ofText path)
  types_apart : (Path.ofText r.typesPath).Apart (Path.ofText path)

variable {r : Request} {a : Artifact} {w : Workspace} {path text types : Text} {tree : FileTree}
  {content : ByteArray}

theorem Inputs.of_lookup_goal (h : r.Inputs a w text types)
    (hinterface : (Path.ofText r.interfacePath).Ordinary)
    (htypes : (Path.ofText r.typesPath).Ordinary)
    (hsame : ∀ p ∈ [r.interfacePath, r.typesPath],
      tree.lookup (w.goal p) = w.tree.lookup (w.goal p)) :
    r.Inputs a { w with tree := tree } text types where
  interface := h.interface.of_lookup_goal hinterface (hsame _ (by simp))
  types_ffi ha := (h.types_ffi ha).of_lookup_goal htypes (hsame _ (by simp))
  types_other := h.types_other

/-- The same inputs are read with and without the file. -/
theorem InputsApart.inputs_iff (h : r.InputsApart path)
    (hfile : w.tree.WithFile (w.way path) (w.goal path) content tree) :
    r.Inputs a { w with tree := tree } text types ↔ r.Inputs a w text types := by
  have hsame : ∀ p ∈ [r.interfacePath, r.typesPath],
      tree.lookup (w.goal p) = w.tree.lookup (w.goal p) := by
    intro p hp
    have hp' : p = r.interfacePath ∨ p = r.typesPath := by simpa using hp
    rcases hp' with rfl | rfl
    · obtain ⟨hne, hway⟩ :=
        Workspace.not_touched_of_apart h.interface_ordinary h.ordinary h.interface_apart
      exact hfile.lookup_of_not_touched hne hway
    · obtain ⟨hne, hway⟩ :=
        Workspace.not_touched_of_apart h.types_ordinary h.ordinary h.types_apart
      exact hfile.lookup_of_not_touched hne hway
  constructor
  · intro hinputs
    exact hinputs.of_lookup_goal h.interface_ordinary h.types_ordinary
      fun p hp => (hsame p hp).symm
  · intro hinputs
    exact hinputs.of_lookup_goal h.interface_ordinary h.types_ordinary hsame

/-! ### Requests before and after their run -/

/-- Everything that a generation to a file needs is there. -/
structure Ready (r : Request) (a : Artifact) (path : Text) (w : Workspace) (text types : Text) :
    Prop where
  inputs : r.Inputs a w text types
  room : w.Room path
  findsName : w.FindsName path

/-- The file that a generation would write stands there already, below directories. -/
structure Done (r : Request) (a : Artifact) (path : Text) (w : Workspace) (text types : Text) :
    Prop extends r.Ready a path w text types where
  lookup_goal : w.tree.lookup (w.goal path) = some (.file (r.bytesOf a text types))
  lookup_way : ∀ k ∈ w.way path, w.tree.lookup k = some .directory

/-- A generation succeeds with this report and changes nothing. -/
def Settled (r : Request) (a : Artifact) (w : Workspace) (report : Report) : Prop :=
  (generate a r w).result = .ok report ∧ w.tree.Same (generate a r w).workspace.tree

/-- A request that is ready succeeds, and its file is put into the tree. -/
theorem Ready.generate (h : r.Ready a path w text types) (hpath : r.destination = .file path) :
    (CInterface.generate a r w).result = .ok (r.reportOf a text types) ∧
      ∃ tree, (CInterface.generate a r w).workspace = { w with tree := tree } ∧
        w.tree.WithFile (w.way path) (w.goal path) (r.bytesOf a text types) tree :=
  generate_file_of_inputs hpath h.inputs h.room h.findsName

/-- A request stays ready when a file is written that leaves its inputs and its place alone. -/
theorem Ready.withFile {other : Text} (h : r.Ready a path w text types)
    (hnames : w.temporaryNames.Steady) (hinputs : r.InputsApart other)
    (hfile : w.tree.WithFile (w.way other) (w.goal other) content tree)
    (hplace : w.goal other ∉ w.way path) (hgoal : w.goal path ∉ w.way other) :
    r.Ready a path { w with tree := tree } text types := by
  have hroom := h.room.withFile hfile hplace hgoal
  exact ⟨(hinputs.inputs_iff hfile).2 h.inputs, hroom, hroom.findsName hnames h.findsName rfl rfl⟩

/-- A request that is run is done. -/
theorem Ready.done (h : r.Ready a path w text types) (hnames : w.temporaryNames.Steady)
    (hinputs : r.InputsApart path)
    (hfile : w.tree.WithFile (w.way path) (w.goal path) (r.bytesOf a text types) tree) :
    r.Done a path { w with tree := tree } text types := by
  have hoff : w.goal path ∉ w.way path := h.room.goal_not_mem
  refine ⟨h.withFile hnames hinputs hfile hoff hoff, hfile.lookup_place, ?_⟩
  intro k hk
  refine hfile.lookup_way ?_ hk
  rintro rfl
  exact hoff hk

/-- A request that is done stays so when a file is written that leaves its inputs and its place
    alone. -/
theorem Done.withFile {other : Text} (h : r.Done a path w text types)
    (hnames : w.temporaryNames.Steady) (hinputs : r.InputsApart other)
    (hfile : w.tree.WithFile (w.way other) (w.goal other) content tree)
    (hplace : w.goal other ∉ w.way path)
    (hgoal : w.goal path ≠ w.goal other ∧ w.goal path ∉ w.way other) :
    r.Done a path { w with tree := tree } text types := by
  refine ⟨h.toReady.withFile hnames hinputs hfile hplace hgoal.2,
    (hfile.lookup_of_not_touched hgoal.1 hgoal.2).trans h.lookup_goal, ?_⟩
  intro k hk
  have hne : k ≠ w.goal other := by
    rintro rfl
    exact hplace hk
  by_cases hway : k ∈ w.way other
  · exact hfile.lookup_way hne hway
  · exact (hfile.lookup_of_not_touched hne hway).trans (h.lookup_way k hk)

/-- Running a request that is done changes nothing. -/
theorem Done.settled (h : r.Done a path w text types) (hpath : r.destination = .file path) :
    r.Settled a w (r.reportOf a text types) := by
  obtain ⟨hresult, tree, hworkspace, hfile⟩ := h.toReady.generate hpath
  refine ⟨hresult, ?_⟩
  rw [hworkspace]
  exact hfile.same h.lookup_goal fun k hk _ => h.lookup_way k hk

/-! ### Independent requests -/

/-- Two requests that keep out of each other's way: their paths are ordinary, and each destination is
    apart from the other one and from all inputs. -/
structure Independent (r₁ r₂ : Request) (path₁ path₂ : Text) : Prop where
  destination₁ : r₁.destination = .file path₁
  destination₂ : r₂.destination = .file path₂
  ordinary : ∀ p ∈ [path₁, r₁.interfacePath, r₁.typesPath, path₂, r₂.interfacePath, r₂.typesPath],
    (Path.ofText p).Ordinary
  destinations_apart : (Path.ofText path₁).Apart (Path.ofText path₂)
  inputs_apart : ∀ d ∈ [path₁, path₂],
    ∀ p ∈ [r₁.interfacePath, r₁.typesPath, r₂.interfacePath, r₂.typesPath],
      (Path.ofText p).Apart (Path.ofText d)

section Independent

variable {r₁ r₂ : Request} {path₁ path₂ : Text}

theorem Independent.inputsApart₁ (h : r₁.Independent r₂ path₁ path₂) {d : Text}
    (hd : d ∈ [path₁, path₂]) : r₁.InputsApart d where
  ordinary := h.ordinary d (by
    have hd' : d = path₁ ∨ d = path₂ := by simpa using hd
    rcases hd' with rfl | rfl <;> simp)
  interface_ordinary := h.ordinary _ (by simp)
  types_ordinary := h.ordinary _ (by simp)
  interface_apart := h.inputs_apart d hd _ (by simp)
  types_apart := h.inputs_apart d hd _ (by simp)

theorem Independent.inputsApart₂ (h : r₁.Independent r₂ path₁ path₂) {d : Text}
    (hd : d ∈ [path₁, path₂]) : r₂.InputsApart d where
  ordinary := (h.inputsApart₁ hd).ordinary
  interface_ordinary := h.ordinary _ (by simp)
  types_ordinary := h.ordinary _ (by simp)
  interface_apart := h.inputs_apart d hd _ (by simp)
  types_apart := h.inputs_apart d hd _ (by simp)

/-- Neither file touches the place of the other. -/
theorem Independent.not_touched (h : r₁.Independent r₂ path₁ path₂) (w : Workspace) :
    (w.goal path₁ ≠ w.goal path₂ ∧ w.goal path₁ ∉ w.way path₂) ∧
      (w.goal path₂ ≠ w.goal path₁ ∧ w.goal path₂ ∉ w.way path₁) := by
  have h₁ := h.ordinary path₁ (by simp)
  have h₂ := h.ordinary path₂ (by simp)
  exact ⟨Workspace.not_touched_of_apart h₁ h₂ h.destinations_apart,
    Workspace.not_touched_of_apart h₂ h₁ h.destinations_apart.symm⟩

end Independent

end Request

/-! ### Two generations in either order -/

/-- **Independent generations commute.**  If two generations that keep out of each other's way
    succeed one after the other, they succeed in the other order too, with the same reports, and
    afterwards the same stands at every location.  Repeating one of them, at once or after both, gives
    the same report and changes nothing.  Temporary files may fail to be named, but then whatever stands
    in the tree. -/
theorem generate_comm {r₁ r₂ : Request} {path₁ path₂ : Text} (a₁ a₂ : Artifact) (w : Workspace)
    (hnames : w.temporaryNames.Steady) (h : r₁.Independent r₂ path₁ path₂)
    {report₁ report₂ : Report} (h₁ : (generate a₁ r₁ w).result = .ok report₁)
    (h₂ : (generate a₂ r₂ (generate a₁ r₁ w).workspace).result = .ok report₂) :
    let w₁ := (generate a₁ r₁ w).workspace
    let w₂ := (generate a₂ r₂ w).workspace
    let w₁₂ := (generate a₂ r₂ w₁).workspace
    let w₂₁ := (generate a₁ r₁ w₂).workspace
    ((generate a₂ r₂ w).result = .ok report₂ ∧ (generate a₁ r₁ w₂).result = .ok report₁ ∧
      w₁₂.tree.Same w₂₁.tree) ∧
    (r₁.Settled a₁ w₁ report₁ ∧ r₂.Settled a₂ w₂ report₂) ∧
    (r₁.Settled a₁ w₁₂ report₁ ∧ r₂.Settled a₂ w₁₂ report₂) := by
  obtain ⟨⟨hne, hoff₁⟩, ⟨hne', hoff₂⟩⟩ := h.not_touched w
  have hapart₁ : ∀ d ∈ [path₁, path₂], r₁.InputsApart d := fun d hd => h.inputsApart₁ hd
  have hapart₂ : ∀ d ∈ [path₁, path₂], r₂.InputsApart d := fun d hd => h.inputsApart₂ hd
  -- The first run, then the second one behind it.
  obtain ⟨text₁, types₁, hinputs₁, ⟨hroom₁, hname₁⟩, rfl⟩ := generate_file_eq_ok h.destination₁ h₁
  have hready₁ : r₁.Ready a₁ path₁ w text₁ types₁ := ⟨hinputs₁, hroom₁, hname₁⟩
  obtain ⟨-, t₁, hw₁, hfile₁⟩ := hready₁.generate h.destination₁
  rw [hw₁] at h₂
  obtain ⟨text₂, types₂, hinputs₂, ⟨hroom₂, hname₂⟩, rfl⟩ := generate_file_eq_ok h.destination₂ h₂
  have hready₁₂ : r₂.Ready a₂ path₂ { w with tree := t₁ } text₂ types₂ :=
    ⟨hinputs₂, hroom₂, hname₂⟩
  obtain ⟨-, t₁₂, hw₁₂, hfile₁₂⟩ := hready₁₂.generate h.destination₂
  -- Without the first run the second one was ready already.
  have hstart : w.tree.lookup (w.start (Path.ofText path₂)) = some .directory := by
    have hsame : w.start (Path.ofText path₂) = w.start (Path.ofText path₁) := by
      simp [Workspace.start, (h.ordinary path₁ (by simp)).1, (h.ordinary path₂ (by simp)).1]
    rw [hsame]
    exact hroom₁.start_directory
  have hroom : w.Room path₂ := hroom₂.of_withFile hroom₁ hfile₁ hstart
  have hready₂ : r₂.Ready a₂ path₂ w text₂ types₂ :=
    ⟨((hapart₂ path₁ (by simp)).inputs_iff hfile₁).1 hinputs₂, hroom,
      hroom.findsName hnames hname₂ rfl rfl⟩
  obtain ⟨hresult₂, t₂, hw₂, hfile₂⟩ := hready₂.generate h.destination₂
  have hready₂₁ := hready₁.withFile hnames (hapart₁ path₂ (by simp)) hfile₂ hoff₂ hoff₁
  obtain ⟨hresult₁, t₂₁, hw₂₁, hfile₂₁⟩ := hready₂₁.generate h.destination₁
  have hdone₁ := hready₁.done hnames (hapart₁ path₁ (by simp)) hfile₁
  have hdone₂ := hready₂.done hnames (hapart₂ path₂ (by simp)) hfile₂
  have hdone₁₂ := hdone₁.withFile hnames (hapart₁ path₂ (by simp)) hfile₁₂ hoff₂ ⟨hne, hoff₁⟩
  have hdone₁₂' := hready₁₂.done hnames (hapart₂ path₂ (by simp)) hfile₁₂
  simp only [hw₁, hw₂, hw₁₂, hw₂₁]
  exact ⟨⟨hresult₂, hresult₁, hfile₁.comm hfile₁₂ hfile₂ hfile₂₁ hne hoff₁ hoff₂⟩,
    ⟨hdone₁.settled h.destination₁, hdone₂.settled h.destination₂⟩,
    ⟨hdone₁₂.settled h.destination₁, hdone₁₂'.settled h.destination₂⟩⟩

/-- A result with a value is a success. -/
theorem exists_ok_of_isSome {ε α : Type} {x : Except ε α} (h : x.toOption.isSome = true) :
    ∃ a, x = .ok a := by
  cases x with
  | error e => simp [Except.toOption] at h
  | ok a => exact ⟨a, rfl⟩

/-- A header and the bindings from the same interface, into directories of which neither exists and
    one lies inside the other. -/
theorem generate_comm_nested :
    let w : Workspace :=
      { tree := ⟨[("in.c".toList, .file (Workspace.encodeText "int QTS_A(void) \x7b\n".toList)),
          ("types.ts".toList, .file (Workspace.encodeText "type P = number".toList))]⟩ }
    let r₁ : Request :=
      { interfacePath := "in.c".toList, typesPath := "types.ts".toList
        destination := .file "out/api.h".toList }
    let r₂ : Request := { r₁ with destination := .file "out/ts/ffi.ts".toList }
    r₁.Independent r₂ "out/api.h".toList "out/ts/ffi.ts".toList ∧
      ∃ report₁ report₂, (generate .header r₁ w).result = .ok report₁ ∧
        (generate .ffi r₂ (generate .header r₁ w).workspace).result = .ok report₂ ∧
        (generate .ffi r₂ w).result = .ok report₂ ∧
        (generate .header r₁ (generate .ffi r₂ w).workspace).result = .ok report₁ ∧
        (generate .ffi r₂ (generate .header r₁ w).workspace).workspace.tree.Same
          (generate .header r₁ (generate .ffi r₂ w).workspace).workspace.tree := by
  intro w r₁ r₂
  have hindependent : r₁.Independent r₂ "out/api.h".toList "out/ts/ffi.ts".toList :=
    ⟨rfl, rfl, by decide, by decide, by decide⟩
  have hnames : w.temporaryNames.Steady := TemporaryNames.steady_numbered
  obtain ⟨report₁, h₁⟩ : ∃ report₁, (generate .header r₁ w).result = .ok report₁ :=
    exists_ok_of_isSome (by decide +kernel)
  obtain ⟨report₂, h₂⟩ : ∃ report₂,
      (generate .ffi r₂ (generate .header r₁ w).workspace).result = .ok report₂ :=
    exists_ok_of_isSome (by decide +kernel)
  obtain ⟨⟨hresult₂, hresult₁, hsame⟩, -, -⟩ :=
    generate_comm .header .ffi w hnames hindependent h₁ h₂
  exact ⟨hindependent, report₁, report₂, h₁, h₂, hresult₂, hresult₁, hsame⟩

end CInterface

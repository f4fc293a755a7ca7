import CInterface.Text.Basic

namespace CInterface

/-!
# Workspaces — file trees

A file tree is a folder, and a folder holds files and folders under names.  So whatever stands
in a tree stands inside a directory.

* `FileTree.lookup` — what stands at a location.
* `FileTree.put`, `FileTree.remove` — the tree with an entry placed, or with a location and all
  below it gone.
* `FileTree.filesBelow` — the files below a directory, and its empty directories.
* `FileTree.lookup_put_self`, `FileTree.lookup_put_ne` — an entry is placed in a directory, and
  placing it changes no other location.
* `FileTree.lookup_remove_self`, `FileTree.lookup_remove_ne` — a file is gone once it is removed,
  and removing it changes no other location.
* `FileTree.lookup_tail_of_isSome` — above all that stands in a tree are directories.
-/

/-- A place in a file tree: the names on the way to it, the innermost first. -/
abbrev Location := List Text

/-- What stands at a location. -/
inductive Entry
  | file (content : ByteArray)
  | directory

/-- A file, or a directory with what it holds. -/
inductive Node
  | file (content : ByteArray)
  | directory (children : List (Text × Node))

/-- What a directory holds, by name. -/
abbrev Folder := List (Text × Node)

namespace Node

/-- What a node is, seen from outside. -/
def entry : Node → Entry
  | file content => .file content
  | directory _ => .directory

/-- The node of a new entry: a directory starts empty. -/
def ofEntry : Entry → Node
  | .file content => file content
  | .directory => directory []

@[simp] theorem entry_ofEntry (e : Entry) : (ofEntry e).entry = e := by
  cases e <;> rfl

mutual

/-- The files at and below a node with their contents, and its empty directories, each with a
    `/` at the end of its path.  The path of the node itself is given. -/
def files (path : Text) : Node → List (Text × Option ByteArray)
  | file content => [(path, some content)]
  | directory children =>
    if children.isEmpty then [(path ++ ['/'], none)] else filesIn (path ++ ['/']) children

/-- The files of the nodes in a folder, with `start` before their names. -/
def filesIn (start : Text) : List (Text × Node) → List (Text × Option ByteArray)
  | [] => []
  | (name, n) :: folder => files (start ++ name) n ++ filesIn start folder

end

end Node

namespace Folder

/-! ### Names and paths in a folder -/

/-- The folder with a node under a name. -/
def set (name : Text) (n : Node) : Folder → Folder
  | [] => [(name, n)]
  | child :: folder =>
    if child.1 = name then (name, n) :: folder else child :: set name n folder

/-- What stands at the end of a path through the folder, the outermost name first. -/
def find? : List Text → Folder → Option Entry
  | [], _ => some .directory
  | name :: path, folder =>
    match folder.lookup name with
    | none => none
    | some (.file content) => if path.isEmpty then some (.file content) else none
    | some (.directory children) => find? path children

/-- The folder at the end of a path. -/
def folder? : List Text → Folder → Option Folder
  | [], folder => some folder
  | name :: path, folder =>
    match folder.lookup name with
    | some (.directory children) => folder? path children
    | _ => none

/-- The folder with an entry at the end of a path, in place of what stood there.  All but the
    last name must lead to a directory, or nothing is placed. -/
def place (e : Entry) : List Text → Folder → Folder
  | [], folder => folder
  | [name], folder => set name (.ofEntry e) folder
  | name :: next :: path, folder =>
    match folder.lookup name with
    | some (.directory children) => set name (.directory (place e (next :: path) children)) folder
    | _ => folder

/-- The folder without the end of a path and all below it. -/
def erase : List Text → Folder → Folder
  | [], _ => []
  | [name], folder => folder.filter fun child => child.1 ≠ name
  | name :: next :: path, folder =>
    match folder.lookup name with
    | some (.directory children) => set name (.directory (erase (next :: path) children)) folder
    | _ => folder

/-! ### Laws of placing -/

theorem lookup_set_self (name : Text) (n : Node) (folder : Folder) :
    (set name n folder).lookup name = some n := by
  induction folder with
  | nil => simp [set]
  | cons child folder ih =>
    rw [set]
    split
    · simp
    · next h => rw [List.lookup_cons, beq_false_of_ne (Ne.symm h)]; exact ih

theorem lookup_set_ne {name other : Text} (h : other ≠ name) (n : Node) (folder : Folder) :
    (set name n folder).lookup other = folder.lookup other := by
  induction folder with
  | nil => simp [set, List.lookup_cons, beq_false_of_ne h]
  | cons child folder ih =>
    rw [set]
    split
    · next hc =>
      rw [List.lookup_cons, List.lookup_cons, hc]
      simp [beq_false_of_ne h]
    · rw [List.lookup_cons, List.lookup_cons, ih]

/-- Setting a name changes no path that begins with another name. -/
theorem find?_set_ne {name other : Text} (h : other ≠ name) (n : Node) (path : List Text)
    (folder : Folder) : find? (other :: path) (set name n folder) = find? (other :: path) folder := by
  rw [find?, find?, lookup_set_ne h]

/-- What is placed in a directory is found there. -/
theorem find?_place_self (e : Entry) (path : List Text) (name : Text) (folder : Folder)
    (h : find? path folder = some .directory) :
    find? (path ++ [name]) (place e (path ++ [name]) folder) = some e := by
  induction path generalizing folder with
  | nil =>
    rw [List.nil_append, place, find?, lookup_set_self]
    cases e <;> rfl
  | cons first path ih =>
    rw [find?] at h
    cases hl : folder.lookup first with
    | none => simp [hl] at h
    | some n =>
      cases n with
      | file content => simp [hl] at h
      | directory children =>
        rw [hl] at h
        obtain ⟨next, rest, hr⟩ : ∃ next rest, path ++ [name] = next :: rest :=
          List.exists_cons_of_ne_nil (by simp)
        have hp := ih children h
        rw [hr] at hp
        rw [List.cons_append, hr, place, hl, find?, lookup_set_self]
        exact hp

/-- Where no directory stands, placing an entry changes no other path. -/
theorem find?_place_ne (e : Entry) {path other : List Text} (hne : other ≠ path) (folder : Folder)
    (h : find? path folder ≠ some .directory) :
    find? other (place e path folder) = find? other folder := by
  fun_induction place e path folder generalizing other with
  | case1 folder => rfl
  | case2 name folder =>
    cases other with
    | nil => rfl
    | cons first rest =>
      by_cases hf : first = name
      · subst hf
        have hrest : rest ≠ [] := by rintro rfl; exact hne rfl
        rw [find?, find?, lookup_set_self]
        rw [find?] at h
        cases hl : folder.lookup first with
        | none => cases e <;> cases rest <;> simp_all [find?, Node.ofEntry]
        | some n =>
          cases n with
          | file content => cases e <;> cases rest <;> simp_all [find?, Node.ofEntry]
          | directory children => simp [hl, find?] at h
      · exact find?_set_ne hf _ _ _
  | case3 name next path folder children hl ih =>
    cases other with
    | nil => rfl
    | cons first rest =>
      by_cases hf : first = name
      · subst hf
        rw [find?, lookup_set_self, find?, hl]
        refine ih (by rintro rfl; exact hne rfl) ?_
        rwa [find?, hl] at h
      · exact find?_set_ne hf _ _ _
  | case4 name next path folder hl => rfl

/-- Setting a name to what it has already changes nothing. -/
theorem set_of_lookup {name : Text} {n : Node} {folder : Folder}
    (h : folder.lookup name = some n) : set name n folder = folder := by
  induction folder with
  | nil => simp at h
  | cons child folder ih =>
    obtain ⟨key, node⟩ := child
    rw [set]
    by_cases hk : key = name
    · subst hk
      obtain rfl : node = n := by simpa using h
      exact if_pos rfl
    · rw [List.lookup_cons, beq_false_of_ne (Ne.symm hk)] at h
      rw [if_neg hk, ih h]

/-- Nothing is placed outside of directories. -/
theorem place_of_not_directory (e : Entry) (path : List Text) (name : Text) (folder : Folder)
    (h : find? path folder ≠ some .directory) : place e (path ++ [name]) folder = folder := by
  induction path generalizing folder with
  | nil => exact absurd rfl h
  | cons first path ih =>
    obtain ⟨next, rest, hr⟩ : ∃ next rest, path ++ [name] = next :: rest :=
      List.exists_cons_of_ne_nil (by simp)
    rw [List.cons_append, hr, place]
    split
    · next children hl =>
      have hp : find? path children ≠ some .directory := by rwa [find?, hl] at h
      rw [← hr, ih children hp, set_of_lookup hl]
    · rfl

/-! ### Laws of erasing -/

theorem lookup_filter_self (name : Text) (folder : Folder) :
    (folder.filter fun child => child.1 ≠ name).lookup name = none := by
  induction folder with
  | nil => rfl
  | cons child folder ih =>
    by_cases hc : child.1 = name
    · rw [List.filter_cons_of_neg (by simp [hc])]
      exact ih
    · rw [List.filter_cons_of_pos (by simp [hc]), List.lookup_cons, beq_false_of_ne (Ne.symm hc)]
      exact ih

theorem lookup_filter_ne {name other : Text} (h : other ≠ name) (folder : Folder) :
    (folder.filter fun child => child.1 ≠ name).lookup other = folder.lookup other := by
  induction folder with
  | nil => rfl
  | cons child folder ih =>
    by_cases hc : child.1 = name
    · rw [List.filter_cons_of_neg (by simp [hc]), List.lookup_cons, hc, beq_false_of_ne h]
      exact ih
    · rw [List.filter_cons_of_pos (by simp [hc]), List.lookup_cons, List.lookup_cons, ih]

/-- Below what is no directory nothing is found. -/
theorem find?_below_not_directory {name : Text} {rest : List Text} {folder : Folder}
    (h : find? [name] folder ≠ some .directory) (hrest : rest ≠ []) :
    find? (name :: rest) folder = none := by
  rw [find?] at h ⊢
  cases hl : folder.lookup name with
  | none => rfl
  | some n =>
    cases n with
    | file content => simp [hrest]
    | directory children => simp [hl, find?] at h

/-- What is erased is found no more. -/
theorem find?_erase_self {path : List Text} (hne : path ≠ []) (folder : Folder) :
    find? path (erase path folder) = none := by
  fun_induction erase path folder with
  | case1 folder => exact absurd rfl hne
  | case2 name folder => rw [find?, lookup_filter_self]
  | case3 name next path folder children hl ih =>
    rw [find?, lookup_set_self]
    exact ih (by simp)
  | case4 name next path folder hl =>
    rw [find?]
    split
    · rfl
    · rfl
    · next children h => exact absurd h (hl children)

/-- Where no directory stands, erasing changes no other path. -/
theorem find?_erase_ne {path other : List Text} (hne : other ≠ path) (folder : Folder)
    (h : find? path folder ≠ some .directory) :
    find? other (erase path folder) = find? other folder := by
  fun_induction erase path folder generalizing other with
  | case1 folder => exact absurd rfl h
  | case2 name folder =>
    cases other with
    | nil => rfl
    | cons first rest =>
      by_cases hf : first = name
      · subst hf
        have hrest : rest ≠ [] := by rintro rfl; exact hne rfl
        rw [find?_below_not_directory h hrest, find?, lookup_filter_self]
      · rw [find?, find?, lookup_filter_ne hf]
  | case3 name next path folder children hl ih =>
    cases other with
    | nil => rfl
    | cons first rest =>
      by_cases hf : first = name
      · subst hf
        rw [find?, lookup_set_self, find?, hl]
        refine ih (by rintro rfl; exact hne rfl) ?_
        rwa [find?, hl] at h
      · exact find?_set_ne hf _ _ _
  | case4 name next path folder hl => rfl

/-! ### What stands above -/

/-- Above all that is found are directories. -/
theorem find?_of_append_isSome {path : List Text} {name : Text} {folder : Folder}
    (h : (find? (path ++ [name]) folder).isSome) : find? path folder = some .directory := by
  induction path generalizing folder with
  | nil => rfl
  | cons first path ih =>
    rw [List.cons_append, find?] at h
    rw [find?]
    cases hl : folder.lookup first with
    | none => simp [hl] at h
    | some n =>
      cases n with
      | file content => simp [hl] at h
      | directory children =>
        rw [hl] at h
        exact ih h

end Folder

/-- A file tree.  The root is a directory without a name. -/
structure FileTree where
  /-- What the root holds. -/
  root : Folder := []

namespace FileTree

/-- What stands at a location. -/
def lookup (t : FileTree) (l : Location) : Option Entry :=
  Folder.find? l.reverse t.root

/-- The tree with an entry placed at a location, if that lies in a directory. -/
def put (t : FileTree) (l : Location) (e : Entry) : FileTree :=
  ⟨Folder.place e l.reverse t.root⟩

/-- The tree without a location and all below it. -/
def remove (t : FileTree) (l : Location) : FileTree :=
  ⟨Folder.erase l.reverse t.root⟩

/-- Does a directory stand at the location? -/
def isDirectory (t : FileTree) (l : Location) : Bool :=
  match t.lookup l with
  | some .directory => true
  | _ => false

/-- What the directory at a location holds; nothing if there is no directory. -/
def folderAt (t : FileTree) (l : Location) : Folder :=
  (Folder.folder? l.reverse t.root).getD []

/-- The files below a directory with their contents, and its empty directories, each with a `/`
    at the end of its path. -/
def filesBelow (t : FileTree) (base : Location) : List (Text × Option ByteArray) :=
  Node.filesIn [] (t.folderAt base)

/-! ### Laws of placing and removing -/

@[simp] theorem lookup_nil (t : FileTree) : t.lookup [] = some .directory := rfl

theorem lookup_put_self (t : FileTree) {name : Text} {l : Location} (e : Entry)
    (h : t.lookup l = some .directory) : (t.put (name :: l) e).lookup (name :: l) = some e := by
  rw [lookup, put, List.reverse_cons]
  exact Folder.find?_place_self e l.reverse name t.root h

theorem lookup_put_ne (t : FileTree) {l m : Location} (e : Entry) (hne : m ≠ l)
    (h : t.lookup l ≠ some .directory) : (t.put l e).lookup m = t.lookup m :=
  Folder.find?_place_ne e (fun hr => hne (List.reverse_inj.mp hr)) t.root h

/-- Nothing is placed outside of directories. -/
theorem put_of_not_directory (t : FileTree) {name : Text} {l : Location} (e : Entry)
    (h : t.lookup l ≠ some .directory) : t.put (name :: l) e = t := by
  rw [put, List.reverse_cons, Folder.place_of_not_directory e l.reverse name t.root h]

theorem lookup_remove_self (t : FileTree) {l : Location} (h : l ≠ []) :
    (t.remove l).lookup l = none :=
  Folder.find?_erase_self (by simpa using h) t.root

theorem lookup_remove_ne (t : FileTree) {l m : Location} (hne : m ≠ l)
    (h : t.lookup l ≠ some .directory) : (t.remove l).lookup m = t.lookup m :=
  Folder.find?_erase_ne (fun hr => hne (List.reverse_inj.mp hr)) t.root h

/-- Above all that stands in a tree are directories. -/
theorem lookup_tail_of_isSome {t : FileTree} {name : Text} {l : Location}
    (h : (t.lookup (name :: l)).isSome) : t.lookup l = some .directory := by
  rw [lookup, List.reverse_cons] at h
  exact Folder.find?_of_append_isSome h

end FileTree

end CInterface

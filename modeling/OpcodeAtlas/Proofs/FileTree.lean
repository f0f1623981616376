import OpcodeAtlas.FileTree
import OpcodeAtlas.Proofs.OrderedMap
import OpcodeAtlas.Proofs.Outcome

namespace OpcodeAtlas

/-- What a path leads to from an entry. A file leads nowhere. -/
def FileEntry.at? (path : List Text) : FileEntry → Option FileEntry
  | .file content => if path.isEmpty then some (.file content) else none
  | .folder entries => FileTree.at? path entries

/-- The content of a file. A folder has none. -/
def FileEntry.content? : FileEntry → Option Text
  | .file content => some content
  | .folder _ => none

namespace FileTree

variable {tree : FileTree} {entry : FileEntry}

@[simp]
theorem at?_folder (path : List Text) (entries : FileTree) :
    FileEntry.at? path (.folder entries) = entries.at? path :=
  rfl

theorem at?_nil (tree : FileTree) : tree.at? [] = some (.folder tree) :=
  rfl

theorem at?_cons (name : Text) (rest : List Text) (tree : FileTree) :
    tree.at? (name :: rest) = (tree.lookup name).bind (FileEntry.at? rest) := by
  rw [at?]
  cases tree.lookup name with
  | none => rfl
  | some entry => cases entry <;> rfl

/-- A path is followed step by step. -/
theorem at?_append (path rest : List Text) (tree : FileTree) :
    tree.at? (path ++ rest) = (tree.at? path).bind (FileEntry.at? rest) := by
  induction path generalizing tree with
  | nil => rfl
  | cons name more ih =>
    rw [List.cons_append, at?_cons, at?_cons]
    cases tree.lookup name with
    | none => rfl
    | some entry =>
      cases entry with
      | folder entries => exact ih entries
      | file content => cases more <;> rfl

theorem content?_eq_bind (path : List Text) (tree : FileTree) :
    tree.content? path = (tree.at? path).bind FileEntry.content? := by
  rw [content?]
  cases tree.at? path with
  | none => rfl
  | some entry => cases entry <;> rfl

theorem content?_eq_some_iff {path : List Text} {content : Text} :
    tree.content? path = some content ↔ tree.at? path = some (.file content) := by
  rw [content?_eq_bind, Option.bind_eq_some_iff]
  constructor
  · rintro ⟨entry, hentry, hcontent⟩
    cases entry with
    | file other => rw [hentry, Option.some.inj hcontent]
    | folder entries => cases hcontent
  · exact fun hfile => ⟨_, hfile, rfl⟩

theorem content?_eq_none_iff {path : List Text} :
    tree.content? path = none ↔ ∀ content, tree.at? path ≠ some (.file content) := by
  simp only [Ne, ← content?_eq_some_iff, Option.eq_none_iff_forall_ne_some]

/-- The way to the folder of a longer path begins in a folder. -/
theorem exists_inner_of_at?_dropLast {name next : Text} {more : List Text} {entries : FileTree}
    (habove : tree.at? (name :: next :: more).dropLast = some (.folder entries)) :
    ∃ inner, tree.lookup name = some (.folder inner) ∧
      at? (next :: more).dropLast inner = some (.folder entries) := by
  rw [List.dropLast_cons_of_ne_nil (List.cons_ne_nil _ _), at?_cons, Option.bind_eq_some_iff] at habove
  obtain ⟨inner, hinner, habove⟩ := habove
  cases inner with
  | file content => cases more <;> simp [FileEntry.at?] at habove
  | folder inner => exact ⟨inner, hinner, habove⟩

/-- Where there is a folder to put an entry into, the entry hides what its path led to before. What
all other paths lead to has the same content as before. -/
theorem content?_set {path : List Text} (hne : path ≠ []) {entries : FileTree}
    (habove : tree.at? path.dropLast = some (.folder entries)) (other : List Text) :
    content? other (set entry path tree) =
      if path <+: other then (entry.at? (other.drop path.length)).bind FileEntry.content?
      else content? other tree := by
  simp only [content?_eq_bind]
  -- Both paths are followed at once, for as long as their names agree.
  induction path generalizing tree other with
  | nil => exact absurd rfl hne
  | cons name more ih =>
    cases other with
    | nil => rw [if_neg (by simp)]; rfl
    | cons first others =>
      simp only [at?_cons, List.cons_prefix_cons, List.length_cons, List.drop_succ_cons]
      cases more with
      | nil =>
        rw [set, OrderedMap.lookup_put]
        by_cases hfirst : first = name
        · simp [hfirst]
        · simp [hfirst, Ne.symm hfirst]
      | cons next more =>
        obtain ⟨inner, hinner, habove⟩ := exists_inner_of_at?_dropLast habove
        rw [set, hinner, OrderedMap.lookup_put]
        by_cases hfirst : first = name
        · simpa [hfirst, hinner] using ih (List.cons_ne_nil _ _) habove others
        · simp [hfirst, Ne.symm hfirst]

/-- A file that is set changes no other file. -/
theorem content?_set_file {path : List Text} (hne : path ≠ []) {entries : FileTree}
    (habove : tree.at? path.dropLast = some (.folder entries))
    (hfree : ∀ entries, tree.at? path ≠ some (.folder entries)) (content : Text)
    (other : List Text) :
    content? other (set (.file content) path tree) =
      if other = path then some content else content? other tree := by
  rw [content?_set hne habove]
  by_cases hprefix : path <+: other
  · obtain ⟨rest, rfl⟩ := hprefix
    rw [if_pos (List.prefix_append _ _), List.drop_left]
    cases rest with
    | nil => rw [List.append_nil, if_pos rfl]; rfl
    | cons next rest =>
      rw [if_neg (by simp), content?_eq_bind, at?_append]
      cases hat : tree.at? path with
      | none => rfl
      | some entry =>
        cases entry with
        | file old => rfl
        | folder entries => exact absurd hat (hfree entries)
  · rw [if_neg hprefix, if_neg]
    rintro rfl
    exact hprefix (List.prefix_refl _)

/-- An empty folder that is added where nothing was changes no file. -/
theorem content?_set_folder {path : List Text} (hne : path ≠ []) {entries : FileTree}
    (habove : tree.at? path.dropLast = some (.folder entries)) (hnone : tree.at? path = none)
    (other : List Text) : content? other (set (.folder []) path tree) = content? other tree := by
  rw [content?_set hne habove]
  split_ifs with hprefix
  · obtain ⟨rest, rfl⟩ := hprefix
    rw [content?_eq_bind, at?_append, hnone, List.drop_left]
    cases rest <;> rfl
  · rfl

/-- What is at a path already can be set again. -/
theorem set_eq_self {path : List Text} (hne : path ≠ []) (hat : tree.at? path = some entry) :
    set entry path tree = tree := by
  induction path generalizing tree with
  | nil => exact absurd rfl hne
  | cons name more ih =>
    rw [at?_cons, Option.bind_eq_some_iff] at hat
    obtain ⟨inner, hinner, hat⟩ := hat
    cases more with
    | nil =>
      have hentry : inner = entry := by
        cases inner <;> exact Option.some.inj hat
      exact OrderedMap.put_eq_self (hentry ▸ hinner)
    | cons next more =>
      cases inner with
      | file content => cases hat
      | folder inner =>
        rw [set, hinner]
        exact OrderedMap.put_eq_self ((ih (List.cons_ne_nil _ _) hat).symm ▸ hinner)

/-- What is set at a path is what it leads to. -/
theorem at?_set_self {path : List Text} (hne : path ≠ []) {entries : FileTree}
    (habove : tree.at? path.dropLast = some (.folder entries)) :
    (set entry path tree).at? path = some entry := by
  induction path generalizing tree with
  | nil => exact absurd rfl hne
  | cons name more ih =>
    cases more with
    | nil =>
      rw [set, at?_cons, OrderedMap.lookup_put, if_pos rfl]
      cases entry <;> rfl
    | cons next more =>
      obtain ⟨inner, hinner, habove⟩ := exists_inner_of_at?_dropLast habove
      rw [set, hinner, at?_cons, OrderedMap.lookup_put, if_pos rfl]
      exact ih (List.cons_ne_nil _ _) habove

/-- Whatever a path leads to, there is a folder it lies in. -/
theorem exists_folder_of_at? {path rest : List Text} (hrest : rest ≠ [])
    (hat : tree.at? (path ++ rest) = some entry) :
    ∃ entries, tree.at? path = some (.folder entries) := by
  rw [at?_append, Option.bind_eq_some_iff] at hat
  obtain ⟨outer, houter, hat⟩ := hat
  cases outer with
  | folder entries => exact ⟨entries, houter⟩
  | file content =>
    cases rest with
    | nil => exact absurd rfl hrest
    | cons name rest => cases hat

/-- No file stands at the path or on the way to it. -/
def Free (tree : FileTree) (path : List Text) : Prop :=
  ∀ before, before <+: path → tree.content? before = none

theorem Free.of_isPrefix {path before : List Text} (hfree : tree.Free path) (hbefore : before <+: path) :
    tree.Free before :=
  fun _ hmore => hfree _ (List.IsPrefix.trans hmore hbefore)

/-- A path on which no file stands leads to a folder or nowhere. -/
theorem Free.at?_eq {path : List Text} (hfree : tree.Free path) :
    tree.at? path = none ∨ ∃ entries, tree.at? path = some (.folder entries) := by
  have hfile := content?_eq_none_iff.mp (hfree path (List.prefix_refl _))
  cases hat : tree.at? path with
  | none => exact Or.inl rfl
  | some entry =>
    cases entry with
    | file content => exact absurd hat (hfile content)
    | folder entries => exact Or.inr ⟨entries, rfl⟩

/-- A name that a folder can hold and that is no way up. -/
def Accepts (name : Text) : Prop :=
  name ≠ parentName ∧ name.byteLength ≤ nameLimit

instance (name : Text) : Decidable (Accepts name) :=
  inferInstanceAs (Decidable (_ ∧ _))

/-- An accepted name is followed into the folder it leads to, if it leads to one. -/
theorem follow_cons {name : Text} (hname : Accepts name) (current rest : List Text) :
    follow tree current (name :: rest) =
      match tree.at? (current ++ [name]) with
      | none => .error .notFound
      | some (.file _) => .error .notFolder
      | some (.folder _) => follow tree (current ++ [name]) rest := by
  have hlimit := Nat.not_lt.mpr hname.2
  cases hat : tree.at? (current ++ [name]) with
  | none => rw [follow, if_neg hname.1, if_neg hlimit, hat]
  | some entry => cases entry <;> rw [follow, if_neg hname.1, if_neg hlimit, hat]

/-- A path of accepted names that leads to a folder can be followed. -/
theorem follow_of_folder {names : List Text} (hnames : ∀ name ∈ names, Accepts name)
    {current : List Text} {entries : FileTree}
    (hfolder : tree.at? (current ++ names) = some (.folder entries)) :
    follow tree current names = .ok (current ++ names) := by
  induction names generalizing current with
  | nil => rw [follow, List.append_nil]
  | cons name rest ih =>
    obtain ⟨hname, hrest⟩ := List.forall_mem_cons.mp hnames
    rw [List.append_cons] at hfolder ⊢
    rw [follow_cons hname]
    cases rest with
    | nil =>
      rw [List.append_nil] at hfolder ⊢
      rw [hfolder]
      rfl
    | cons next more =>
      obtain ⟨inner, hinner⟩ := exists_folder_of_at? (List.cons_ne_nil _ _) hfolder
      rw [hinner]
      exact ih hrest hfolder

/-- A file on the way stops whoever follows the path. -/
theorem follow_of_file {before rest : List Text} (hnames : ∀ name ∈ before, Accepts name)
    {current : List Text} {entries : FileTree} (hcurrent : tree.at? current = some (.folder entries))
    {content : Text} (hfile : tree.at? (current ++ before) = some (.file content)) :
    follow tree current (before ++ rest) = .error .notFolder := by
  induction before generalizing current entries with
  | nil =>
    rw [List.append_nil, hcurrent] at hfile
    cases hfile
  | cons name more ih =>
    obtain ⟨hname, hmore⟩ := List.forall_mem_cons.mp hnames
    rw [List.append_cons] at hfile
    rw [List.cons_append, follow_cons hname]
    cases more with
    | nil =>
      rw [List.append_nil] at hfile
      rw [hfile]
    | cons next more =>
      obtain ⟨inner, hinner⟩ := exists_folder_of_at? (List.cons_ne_nil _ _) hfile
      rw [hinner]
      exact ih hmore hinner hfile

/-- Without a file on the way, a path that leads nowhere is found to do so. -/
theorem follow_of_none {names : List Text} (hnames : ∀ name ∈ names, Accepts name)
    {current : List Text} {entries : FileTree} (hcurrent : tree.at? current = some (.folder entries))
    (hfree : tree.Free (current ++ names)) (hnone : tree.at? (current ++ names) = none) :
    follow tree current names = .error .notFound := by
  induction names generalizing current entries with
  | nil =>
    rw [List.append_nil, hcurrent] at hnone
    cases hnone
  | cons name rest ih =>
    obtain ⟨hname, hrest⟩ := List.forall_mem_cons.mp hnames
    rw [List.append_cons] at hfree hnone
    rw [follow_cons hname]
    obtain hinner | ⟨inner, hinner⟩ := (hfree.of_isPrefix (List.prefix_append _ _)).at?_eq
    · rw [hinner]
    · rw [hinner]
      exact ih hrest hinner hfree hnone

theorem isFolder_of_folder {path : List Text} (hnames : ∀ name ∈ path, Accepts name)
    {entries : FileTree} (hfolder : tree.at? path = some (.folder entries)) :
    tree.isFolder path = true := by
  rw [isFolder, follow_of_folder hnames (by rwa [List.nil_append])]
  rfl

theorem isFolder_of_file {path : List Text} (hnames : ∀ name ∈ path, Accepts name)
    {content : Text} (hfile : tree.at? path = some (.file content)) :
    tree.isFolder path = false := by
  rw [isFolder, ← List.append_nil path, follow_of_file hnames (at?_nil tree) hfile]
  rfl

/-- The last name of a path is looked up in the folder that the names before it lead to. -/
theorem locate_of_folder {above : List Text} (habove : ∀ name ∈ above, Accepts name)
    {entries : FileTree} (hfolder : tree.at? above = some (.folder entries)) {name : Text}
    (hname : Accepts name) :
    tree.locate above name = .ok (above ++ [name], tree.at? (above ++ [name])) := by
  have hfollow : follow tree [] above = .ok above :=
    follow_of_folder habove (by rwa [List.nil_append])
  rw [locate, hfollow]
  change (if name = parentName then _ else _) = _
  rw [if_neg hname.1, if_neg (Nat.not_lt.mpr hname.2)]
  rfl

theorem addFolder_of_folder {above : List Text} (habove : ∀ name ∈ above, Accepts name)
    {entries : FileTree} (hfolder : tree.at? above = some (.folder entries)) {name : Text}
    (hname : Accepts name) :
    tree.addFolder above name =
      match tree.at? (above ++ [name]) with
      | some _ => .error .alreadyExists
      | none => .ok (set (.folder []) (above ++ [name]) tree) := by
  rw [addFolder, locate_of_folder habove hfolder hname]
  cases tree.at? (above ++ [name]) <;> rfl

theorem addFolder_of_error {above : List Text} {error : FileError}
    (hfollow : tree.follow [] above = .error error) (name : Text) :
    tree.addFolder above name = .error error := by
  rw [addFolder, locate, hfollow]
  rfl

theorem setFile_of_folder {above : List Text} (habove : ∀ name ∈ above, Accepts name)
    {entries : FileTree} (hfolder : tree.at? above = some (.folder entries)) {name : Text}
    (hname : Accepts name) (content : Text) :
    tree.setFile (above ++ [name]) content =
      match tree.at? (above ++ [name]) with
      | some (.folder _) => .error .isFolder
      | _ => .ok (set (.file content) (above ++ [name]) tree) := by
  rw [setFile, List.getLast?_concat]
  simp only [List.dropLast_concat]
  rw [locate_of_folder habove hfolder hname]
  cases hat : tree.at? (above ++ [name]) with
  | none => rfl
  | some entry => cases entry <;> rfl

end FileTree

end OpcodeAtlas

import PushGoals.Files.Tree
import PushGoals.Proofs.Files.Paths

/-!
# Look-ups in a checkout

Names lead from a directory to a file or to a directory below it, or they do not: then a
directory on the way lacks the next name, or a file blocks the way.  A look-up says yes and
gives the content exactly for files, and whether it finds a file does not depend on which
question is asked.  A name that is lacking is an answer for both questions.  A blocked way
is an error for both, and a directory is one for the question about its content.
-/

namespace PushGoals

namespace FileTree

variable {tree target next : FileTree} {names front rest : List String} {name : String}
  {entries : List (String × FileTree)}

/-- The names lead from a tree to what is below it. -/
inductive Leads : FileTree → List String → FileTree → Prop
  | here (tree : FileTree) : Leads tree [] tree
  | step {entries : List (String × FileTree)} {name : String} {rest : List String}
      {next target : FileTree} (hentry : entries.lookup name = some next)
      (hrest : Leads next rest target) : Leads (.directory entries) (name :: rest) target

/-- A directory on the way does not have the next name. -/
def Lacks (tree : FileTree) (names : List String) : Prop :=
  ∃ front name rest entries, names = front ++ name :: rest ∧
    tree.Leads front (.directory entries) ∧ entries.lookup name = none

/-- A file stands where the way would go on. -/
def Blocks (tree : FileTree) (names : List String) : Prop :=
  ∃ front name rest content, names = front ++ name :: rest ∧ tree.Leads front (.file content)

theorem Lacks.step (hentry : entries.lookup name = some next) (hrest : next.Lacks rest) :
    Lacks (.directory entries) (name :: rest) := by
  obtain ⟨front, missing, back, others, rfl, hleads, hnone⟩ := hrest
  exact ⟨name :: front, missing, back, others, rfl, .step hentry hleads, hnone⟩

theorem Blocks.step (hentry : entries.lookup name = some next) (hrest : next.Blocks rest) :
    Blocks (.directory entries) (name :: rest) := by
  obtain ⟨front, behind, back, content, rfl, hleads⟩ := hrest
  exact ⟨name :: front, behind, back, content, rfl, .step hentry hleads⟩

/-- Names lead somewhere, or they are lacking, or they are blocked. -/
theorem ways (tree : FileTree) (names : List String) :
    (∃ target, tree.Leads names target) ∨ tree.Lacks names ∨ tree.Blocks names := by
  induction names generalizing tree with
  | nil => exact .inl ⟨tree, .here tree⟩
  | cons name rest ih =>
      cases tree with
      | file content => exact .inr (.inr ⟨[], name, rest, content, rfl, .here _⟩)
      | directory entries =>
          cases hentry : entries.lookup name with
          | none => exact .inr (.inl ⟨[], name, rest, entries, rfl, .here _, hentry⟩)
          | some next =>
              rcases ih next with ⟨target, hleads⟩ | hlacks | hblocks
              · exact .inl ⟨target, .step hentry hleads⟩
              · exact .inr (.inl (hlacks.step hentry))
              · exact .inr (.inr (hblocks.step hentry))

/-- Where the names lead, or what is wrong with the way. -/
def descend : FileTree → List String → Except FileError FileTree
  | tree, [] => .ok tree
  | .file _, _ :: _ => .error .notADirectory
  | .directory entries, name :: rest =>
      match entries.lookup name with
      | none => .error .notFound
      | some next => next.descend rest

theorem Leads.descend_append (hleads : tree.Leads front target) (rest : List String) :
    tree.descend (front ++ rest) = target.descend rest := by
  induction hleads with
  | here tree => rfl
  | step hentry _ ih =>
      rw [List.cons_append, descend, hentry]
      exact ih

theorem Leads.descend_eq (hleads : tree.Leads names target) : tree.descend names = .ok target := by
  have hdescend := hleads.descend_append []
  rwa [List.append_nil, descend] at hdescend

theorem Lacks.descend_eq (hlacks : tree.Lacks names) :
    tree.descend names = .error .notFound := by
  obtain ⟨front, name, rest, entries, rfl, hleads, hnone⟩ := hlacks
  rw [hleads.descend_append, descend, hnone]

theorem Blocks.descend_eq (hblocks : tree.Blocks names) :
    tree.descend names = .error .notADirectory := by
  obtain ⟨front, name, rest, content, rfl, hleads⟩ := hblocks
  rw [hleads.descend_append, descend]

theorem leads_iff : tree.Leads names target ↔ tree.descend names = .ok target := by
  refine ⟨Leads.descend_eq, fun hdescend => ?_⟩
  rcases tree.ways names with ⟨other, hleads⟩ | hlacks | hblocks
  · rw [hleads.descend_eq] at hdescend
    cases hdescend
    exact hleads
  · cases hlacks.descend_eq.symm.trans hdescend
  · cases hblocks.descend_eq.symm.trans hdescend

theorem lacks_iff : tree.Lacks names ↔ tree.descend names = .error .notFound := by
  refine ⟨Lacks.descend_eq, fun hdescend => ?_⟩
  rcases tree.ways names with ⟨target, hleads⟩ | hlacks | hblocks
  · cases hleads.descend_eq.symm.trans hdescend
  · exact hlacks
  · cases hblocks.descend_eq.symm.trans hdescend

theorem blocks_iff : tree.Blocks names ↔ tree.descend names = .error .notADirectory := by
  refine ⟨Blocks.descend_eq, fun hdescend => ?_⟩
  rcases tree.ways names with ⟨target, hleads⟩ | hlacks | hblocks
  · cases hleads.descend_eq.symm.trans hdescend
  · cases hlacks.descend_eq.symm.trans hdescend
  · exact hblocks

/-! ## Trees in memory -/

/-- A name of its own: it leads from a directory to one of its entries. -/
structure Ordinary (name : String) : Prop where
  nonempty : name ≠ ""
  notHere : name ≠ "."
  notUp : name ≠ ".."
  slash : '/' ∉ name.toList
  nul : '\x00' ∉ name.toList

instance (name : String) : Decidable (Ordinary name) :=
  decidable_of_iff
    (name ≠ "" ∧ name ≠ "." ∧ name ≠ ".." ∧ '/' ∉ name.toList ∧ '\x00' ∉ name.toList)
    ⟨fun ⟨h, here, up, slash, nul⟩ => ⟨h, here, up, slash, nul⟩,
      fun h => ⟨h.nonempty, h.notHere, h.notUp, h.slash, h.nul⟩⟩

/-- On ordinary names that are not too long a tree in memory is followed as it is descended. -/
theorem follow_eq_descend (hnames : ∀ name ∈ names, Ordinary name ∧ name.utf8ByteSize ≤ maxName)
    (above : List FileTree) (tree : FileTree) : follow above tree names = tree.descend names := by
  induction names generalizing above tree with
  | nil => rw [follow, descend]
  | cons name rest ih =>
      obtain ⟨⟨hname, hsize⟩, hrest⟩ := List.forall_mem_cons.mp hnames
      cases tree with
      | file content => rfl
      | directory entries =>
          have hempty : ¬ name.isEmpty = true := mt String.isEmpty_iff.mp hname.nonempty
          simp only [follow, descend, hempty, hname.notHere, hname.notUp, Nat.not_lt.mpr hsize,
            beq_iff_eq, Bool.or_eq_true, or_false, if_false]
          cases entries.lookup name with
          | none => rfl
          | some next => exact ih hrest _ next

theorem look_eq_follow (tree : FileTree) {path : String} (hnul : '\x00' ∉ path.toList)
    (hsize : path.utf8ByteSize ≤ maxPath) (hne : path ≠ "")
    (hrelative : Path.isAbsolute path = false) :
    tree.look path = (follow [] tree (Path.names path)).map toEntry := by
  have hempty : ¬ path.isEmpty = true := mt String.isEmpty_iff.mp hne
  simp [look, hnul, Nat.not_lt.mpr hsize, hempty, hrelative]

end FileTree

namespace Files

open FileTree (Ordinary)

variable {files : Files} {root : String} {tree : FileTree} {names : List String}

/-- Ordinary names joined by slashes stay below the root. -/
theorem staysBelow_intercalate (hne : names ≠ []) (hnames : ∀ name ∈ names, Ordinary name) :
    Path.staysBelow ("/".intercalate names) = true := by
  have hparts := Path.names_intercalate hne fun name hname => (hnames name hname).slash
  rw [Path.staysBelow_iff, Path.root_mem_components_iff, Path.up_mem_components_iff, hparts]
  refine ⟨fun habsolute => ?_, fun hup => (hnames _ hup).notUp rfl⟩
  have hhead := Path.head?_names_of_isAbsolute habsolute
  rw [hparts] at hhead
  exact (hnames _ (List.mem_of_mem_head? hhead)).nonempty rfl

/-- What the disk answers for names behind the root of a checkout: the entry to which they
lead, that a name was not found, or that a file on the way is no directory. -/
def Shows (files : Files) (root : String) (tree : FileTree) (names : List String) : Prop :=
  files.look (Path.join root ("/".intercalate names)) =
    (tree.descend names).map FileTree.toEntry

theorem not_mem_intercalate {c : Char} (hslash : c ≠ '/') {names : List String}
    (hnames : ∀ name ∈ names, c ∉ name.toList) : c ∉ ("/".intercalate names).toList := by
  induction names with
  | nil => simp
  | cons name rest ih =>
      obtain ⟨hname, hrest⟩ := List.forall_mem_cons.mp hnames
      cases rest with
      | nil => simpa using hname
      | cons next others =>
          rw [String.intercalate_cons_cons]
          simp only [String.toList_append, List.mem_append, not_or]
          exact ⟨⟨hname, mt List.mem_singleton.mp hslash⟩, ih hrest⟩

/-- A tree in memory shows itself, where neither a name nor the path is too long. -/
theorem shows_files (hne : names ≠ [])
    (hnames : ∀ name ∈ names, Ordinary name ∧ name.utf8ByteSize ≤ FileTree.maxName)
    (hsize : ("." ++ "/" ++ "/".intercalate names).utf8ByteSize ≤ FileTree.maxPath) :
    tree.files.Shows "." tree names := by
  have hordinary : ∀ name ∈ names, Ordinary name := fun name hname => (hnames name hname).1
  have hparts := Path.names_intercalate hne fun name hname => (hordinary name hname).slash
  have hbelow := staysBelow_intercalate hne hordinary
  rw [Path.staysBelow_iff, Path.root_mem_components_iff] at hbelow
  have hjoin : Path.join "." ("/".intercalate names) = "." ++ "/" ++ "/".intercalate names := by
    rw [Path.join, if_neg hbelow.1]
    rfl
  have hnul : '\x00' ∉ ("." ++ "/" ++ "/".intercalate names).toList := by
    simp only [String.toList_append, List.mem_append, not_or]
    exact ⟨by decide, not_mem_intercalate (by decide) fun name hname => (hordinary name hname).nul⟩
  -- The point in front stays where it is, so the names are followed from the root of the tree.
  have hfollow : FileTree.follow [] tree ("." :: names) = tree.descend names := by
    cases tree with
    | file content =>
        obtain ⟨name, rest, rfl⟩ := List.exists_cons_of_ne_nil hne
        rfl
    | directory entries => exact FileTree.follow_eq_descend hnames [] _
  have habsolute : Path.isAbsolute ("." ++ "/" ++ "/".intercalate names) = false := by
    rw [Path.isAbsolute_append (by decide)]
    rfl
  have hnames : Path.names ("." ++ "/" ++ "/".intercalate names) = "." :: names := by
    rw [Path.names_append_slash, hparts]
    rfl
  have hlook := FileTree.look_eq_follow tree hnul hsize (by simp) habsolute
  rw [Shows, hjoin, ← hfollow, ← hnames]
  exact hlook

/-! ## What the names of a path decide -/

section

variable (hne : names ≠ []) (hnames : ∀ name ∈ names, Ordinary name)
  (hshows : files.Shows root tree names)

include hne hnames hshows

theorem hasFile_eq :
    (files.project root).hasFile ("/".intercalate names) =
      match tree.descend names with
      | .ok (.file _) => .ok true
      | .ok (.directory _) => .ok false
      | .error .notFound => .ok false
      | .error trouble => .error (.io trouble.message) := by
  have hpath := staysBelow_intercalate hne hnames
  rw [hasFile_of_resolve_ok files (resolve_eq_ok_iff.mpr ⟨hpath, rfl⟩), hshows]
  rcases tree.descend names with trouble | target
  · cases trouble <;> rfl
  · cases target <;> rfl

theorem readFile_eq :
    (files.project root).readFile ("/".intercalate names) =
      match tree.descend names with
      | .ok (.file content) => .ok (some content)
      | .ok (.directory _) => .error (.io FileError.isADirectory.message)
      | .error .notFound => .ok none
      | .error trouble => .error (.io trouble.message) := by
  have hpath := staysBelow_intercalate hne hnames
  rw [readFile_of_resolve_ok files (resolve_eq_ok_iff.mpr ⟨hpath, rfl⟩), read, hshows]
  rcases tree.descend names with trouble | target
  · cases trouble <;> rfl
  · cases target <;> rfl

end

/-- There is a file exactly where the names lead to one, and its content is what is read;
there is none where a name is lacking and, for the first question, where the names lead to a
directory.  A file on the way is an error for both questions, and the content of a directory
is one as well.  The two questions agree on where files are. -/
theorem lookups_agree_on_files {files : Files} {root : String} {tree : FileTree}
    {names : List String} (hne : names ≠ []) (hnames : ∀ name ∈ names, Ordinary name)
    (hshows : files.Shows root tree names) :
    ((files.project root).hasFile ("/".intercalate names) = .ok true ↔
        ∃ content, tree.Leads names (.file content)) ∧
      ((files.project root).hasFile ("/".intercalate names) = .ok false ↔
        tree.Lacks names ∨ ∃ entries, tree.Leads names (.directory entries)) ∧
      (∀ content, (files.project root).readFile ("/".intercalate names) = .ok (some content) ↔
        tree.Leads names (.file content)) ∧
      ((files.project root).readFile ("/".intercalate names) = .ok none ↔ tree.Lacks names) ∧
      ((files.project root).hasFile ("/".intercalate names) = .ok true ↔
        ∃ content, (files.project root).readFile ("/".intercalate names) = .ok (some content)) ∧
      (∀ e, (files.project root).hasFile ("/".intercalate names) = .error e ↔
        tree.Blocks names ∧ e = .io FileError.notADirectory.message) ∧
      ∀ e, (files.project root).readFile ("/".intercalate names) = .error e ↔
        (tree.Blocks names ∧ e = .io FileError.notADirectory.message) ∨
          (∃ entries, tree.Leads names (.directory entries)) ∧
            e = .io FileError.isADirectory.message := by
  rw [hasFile_eq hne hnames hshows, readFile_eq hne hnames hshows]
  simp only [FileTree.leads_iff, FileTree.lacks_iff, FileTree.blocks_iff]
  rcases tree.ways names with ⟨target, hleads⟩ | hlacks | hblocks
  · rw [hleads.descend_eq]
    cases target <;> simp [eq_comm]
  · rw [hlacks.descend_eq]
    simp
  · rw [hblocks.descend_eq]
    simp [eq_comm]

/-- A package with a file of sources one directory below. -/
def packageTree : FileTree :=
  .directory [("Cargo.toml", .file "[package]"), ("src", .directory [("lib.rs", .file "")])]

theorem ordinary_of_lib : ∀ name ∈ ["src", "lib.rs"],
    Ordinary name ∧ name.utf8ByteSize ≤ FileTree.maxName := by
  decide

/-- The sources are found below their directory, and both questions say so. -/
theorem packageTree_sources :
    packageTree.files.Shows "." packageTree ["src", "lib.rs"] ∧
      packageTree.Leads ["src", "lib.rs"] (.file "") ∧
      (packageTree.files.project ".").hasFile "src/lib.rs" = .ok true ∧
      (packageTree.files.project ".").readFile "src/lib.rs" = .ok (some "") := by
  have hshows : packageTree.files.Shows "." packageTree ["src", "lib.rs"] :=
    shows_files (by decide) ordinary_of_lib (by decide)
  have hleads : packageTree.Leads ["src", "lib.rs"] (.file "") := .step rfl (.step rfl (.here _))
  obtain ⟨hhas, -, hread, -⟩ := lookups_agree_on_files (by decide)
    (fun name hname => (ordinary_of_lib name hname).1) hshows
  exact ⟨hshows, hleads, hhas.mpr ⟨"", hleads⟩, (hread "").mpr hleads⟩

/-- Nothing stands behind a file, and a directory is no file; but the question whether there
is a file has no answer for the one, nor the question about its content for the other. -/
theorem file_and_directory_are_errors :
    ¬ ((∃ found, (packageTree.files.project ".").hasFile "Cargo.toml/lock" = .ok found) ∨
      ∃ content, (packageTree.files.project ".").readFile "src" = .ok content) := by
  have hhas : (packageTree.files.project ".").hasFile "Cargo.toml/lock" =
      .error (.io "Not a directory (os error 20)") := by decide +kernel
  have hread : (packageTree.files.project ".").readFile "src" =
      .error (.io "Is a directory (os error 21)") := by decide +kernel
  rw [hhas, hread]
  exact fun h => h.elim (fun ⟨_, hok⟩ => nomatch hok) fun ⟨_, hok⟩ => nomatch hok

end Files

end PushGoals

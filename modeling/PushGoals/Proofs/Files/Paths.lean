import PushGoals.Files.Checkout
import PushGoals.Proofs.Text.Parts

/-!
# Paths that stay below a root

A path is what stands between its slashes, with the root of the disk in front if it starts
with one; empty names and points say nothing.  Behind a root a relative path adds its own
components and takes none away.  So a look-up in a checked-out project is refused, whatever
is on the disk, for a path from the root of the disk and for one that goes up, and for any
other path it asks for one place, below the root of the project.
-/

namespace PushGoals.Path

/-! ## Names -/

theorem namesFrom_eq (current path : List Char) :
    namesFrom current path =
      ((path.splitOn '/').modifyHead (current.reverse ++ ·)).map String.ofList := by
  rw [List.splitOn_eq_splitOnP]
  induction path generalizing current with
  | nil => simp [namesFrom, List.splitOnP_nil]
  | cons c rest ih =>
      rw [namesFrom, List.splitOnP_cons_eq_if_modifyHead]
      by_cases hslash : (c == '/') = true
      · have hid : (fun chars : List Char => [].reverse ++ chars) = id := rfl
        rw [if_pos hslash, if_pos hslash, ih, hid]
        simp
      · have hpush : (fun chars => (c :: current).reverse ++ chars) =
            (fun chars => current.reverse ++ chars) ∘ List.cons c := by
          funext chars
          simp
        rw [if_neg hslash, if_neg hslash, ih, hpush, List.modifyHead_modifyHead]

/-- The names of a path are what stands between its slashes. -/
theorem names_eq_parts (path : String) : names path = Text.parts '/' path := by
  have hid : (fun chars : List Char => [].reverse ++ chars) = id := rfl
  rw [names, namesFrom_eq, hid, List.modifyHead_id]
  rfl

theorem slash_eq_singleton : "/" = String.singleton '/' := rfl

theorem names_append_slash (first second : String) :
    names (first ++ "/" ++ second) = names first ++ names second := by
  simp only [names_eq_parts, slash_eq_singleton, Text.parts_append_cons]

/-- Names without a slash are found again when they are joined by slashes. -/
theorem names_intercalate {parts : List String} (hne : parts ≠ [])
    (hslash : ∀ part ∈ parts, '/' ∉ part.toList) : names ("/".intercalate parts) = parts := by
  rw [names_eq_parts, slash_eq_singleton, Text.parts_intercalate_of_free hne hslash]

/-- In front of the first slash of an absolute path stands the empty name. -/
theorem head?_names_of_isAbsolute {path : String} (hpath : isAbsolute path = true) :
    (names path).head? = some "" := by
  obtain ⟨rest, hrest⟩ := List.head?_eq_some_iff.mp (beq_iff_eq.mp hpath)
  rw [names, hrest]
  rfl

/-! ## Components -/

/-- A step of a path. -/
inductive Component where
  /-- Start at the root of the disk. -/
  | root
  | up
  | name (name : String)
deriving DecidableEq

def Component.ofName (name : String) : Component := if name = ".." then .up else .name name

/-- Names that lead nowhere: nothing between two slashes, and the point. -/
def isIdle (name : String) : Bool := name.isEmpty || name == "."

/-- The names of a path that lead somewhere. -/
def moves (path : String) : List String := (names path).filter (!isIdle ·)

/-- The normal form of a path. -/
def components (path : String) : List Component :=
  (if isAbsolute path then [.root] else []) ++ (moves path).map .ofName

@[simp] theorem moves_empty : moves "" = [] := rfl

theorem moves_append_slash (first second : String) :
    moves (first ++ "/" ++ second) = moves first ++ moves second := by
  rw [moves, names_append_slash, List.filter_append]
  rfl

theorem root_mem_components_iff {path : String} :
    .root ∈ components path ↔ isAbsolute path = true := by
  have hname (name : String) : Component.ofName name ≠ .root := by
    unfold Component.ofName
    split <;> exact nofun
  cases h : isAbsolute path <;> simp [components, h, hname]

theorem up_mem_components_iff {path : String} : .up ∈ components path ↔ ".." ∈ names path := by
  have hname (name : String) : Component.ofName name = .up ↔ name = ".." := by
    simp [Component.ofName]
  have hidle : isIdle ".." = false := rfl
  cases h : isAbsolute path <;> simp [components, moves, h, hname, hidle]

theorem staysBelow_iff {path : String} :
    staysBelow path = true ↔ .root ∉ components path ∧ .up ∉ components path := by
  rw [root_mem_components_iff, up_mem_components_iff]
  simp [staysBelow]

/-- A path that stays below consists of names. -/
theorem components_of_staysBelow {path : String} (hpath : staysBelow path = true) :
    components path = (moves path).map .name := by
  obtain ⟨hroot, hup⟩ := staysBelow_iff.mp hpath
  rw [root_mem_components_iff] at hroot
  rw [up_mem_components_iff] at hup
  rw [components, if_neg hroot, List.nil_append]
  apply List.map_congr_left
  intro name hname
  apply if_neg
  rintro rfl
  exact hup (List.mem_filter.mp hname).1

/-! ## Joined paths -/

theorem isAbsolute_append {first : String} (hfirst : first ≠ "") (second : String) :
    isAbsolute (first ++ second) = isAbsolute first := by
  have hchars : first.toList ≠ [] := fun h => hfirst (String.toList_inj.mp h)
  obtain ⟨c, rest, hcons⟩ := List.exists_cons_of_ne_nil hchars
  simp [isAbsolute, hcons]

theorem eq_append_slash {root : String} (hlast : root.toList.getLast? = some '/') :
    ∃ body, root = body ++ "/" := by
  refine ⟨String.ofList root.toList.dropLast, String.toList_inj.mp ?_⟩
  rw [String.toList_append, String.toList_ofList]
  exact (List.dropLast_append_getLast? '/' hlast).symm

/-- Behind a root a relative path leads where its own names lead. -/
theorem components_join {path : String} (hpath : isAbsolute path = false) (root : String) :
    components (join root path) = components root ++ components path := by
  have hown : components path = (moves path).map .ofName := by simp [components, hpath]
  by_cases hempty : root = ""
  · subst root
    simp [join, components, isAbsolute]
  -- The root keeps its place in front; what is left to compare are the names.
  have hjoined {between : String} (hmoves : moves (root ++ between) = moves root ++ moves path) :
      components (root ++ between) = components root ++ components path := by
    rw [hown, components, isAbsolute_append hempty, hmoves, List.map_append, components,
      List.append_assoc]
  by_cases hlast : root.toList.getLast? = some '/'
  · have hjoin : join root path = root ++ path := by simp [join, hpath, hlast]
    obtain ⟨body, rfl⟩ := eq_append_slash hlast
    have hbody : moves (body ++ "/") = moves body := by
      simpa using moves_append_slash body ""
    rw [hjoin]
    apply hjoined
    rw [moves_append_slash, hbody]
  · have hjoin : join root path = root ++ ("/" ++ path) := by
      simp [join, hpath, hlast, hempty, String.append_assoc]
    rw [hjoin]
    apply hjoined
    rw [← String.append_assoc, moves_append_slash]

end PushGoals.Path

namespace PushGoals.Files

open PushGoals.Path (components moves)

variable {root path full : String}

/-- The error for a path that could lead out of the project. -/
def refusal (path : String) : GoalError :=
  .project ("path '" ++ path ++ "' is not relative to the project root")

theorem resolve_eq_ok_iff :
    resolve root path = .ok full ↔ Path.staysBelow path = true ∧ Path.join root path = full := by
  unfold resolve
  split <;> simp [*]

theorem resolve_of_not_staysBelow (hpath : ¬ Path.staysBelow path = true) (root : String) :
    resolve root path = .error (refusal path) := if_neg hpath

/-! ## Look-ups -/

theorem resolve_bind_ok {α : Type} (hresolve : resolve root path = .ok full)
    (next : String → Except GoalError α) : (resolve root path >>= next) = next full := by
  rw [hresolve]
  rfl

theorem resolve_bind_error {α : Type} {e : GoalError} (hresolve : resolve root path = .error e)
    (next : String → Except GoalError α) : (resolve root path >>= next) = .error e := by
  rw [hresolve]
  rfl

/-- Whether there is a file is told from the one entry at the resolved path. -/
theorem hasFile_of_resolve_ok (files : Files) (hresolve : resolve root path = .ok full) :
    (files.project root).hasFile path =
      match files.look full with
      | .ok (.file _) => .ok true
      | .ok .directory => .ok false
      | .error .notFound => .ok false
      | .error trouble => .error (.io trouble.message) :=
  resolve_bind_ok hresolve _

theorem readFile_of_resolve_ok (files : Files) (hresolve : resolve root path = .ok full) :
    (files.project root).readFile path =
      match files.read full with
      | .ok content => .ok (some content)
      | .error .notFound => .ok none
      | .error trouble => .error (.io trouble.message) :=
  resolve_bind_ok hresolve _

variable {files others : Files}

theorem hasFile_congr (hresolve : resolve root path = .ok full)
    (hlook : files.look full = others.look full) :
    (files.project root).hasFile path = (others.project root).hasFile path := by
  rw [hasFile_of_resolve_ok files hresolve, hasFile_of_resolve_ok others hresolve, hlook]

theorem readFile_congr (hresolve : resolve root path = .ok full)
    (hlook : files.look full = others.look full) :
    (files.project root).readFile path = (others.project root).readFile path := by
  have hread : files.read full = others.read full := by rw [read, read, hlook]
  rw [readFile_of_resolve_ok files hresolve, readFile_of_resolve_ok others hresolve, hread]

/-- A path that is relative and never goes up is resolved to its own names behind the root,
and a look-up depends on what stands there and on nothing else.  For any other path the
answer is an error that names it, whatever is on the disk. -/
theorem lookups_stay_below_the_root (root path : String) :
    ((∃ full, resolve root path = .ok full) ↔
        .root ∉ components path ∧ .up ∉ components path) ∧
      (∀ full, resolve root path = .ok full →
        components full = components root ++ (moves path).map .name ∧
          ∀ files others : Files, files.look full = others.look full →
            (files.project root).hasFile path = (others.project root).hasFile path ∧
              (files.project root).readFile path = (others.project root).readFile path) ∧
      (.root ∈ components path ∨ .up ∈ components path →
        ∀ files : Files, (files.project root).hasFile path = .error (refusal path) ∧
          (files.project root).readFile path = .error (refusal path)) := by
  rw [← Path.staysBelow_iff]
  refine ⟨⟨?_, ?_⟩, ?_, ?_⟩
  · rintro ⟨full, hfull⟩
    exact (resolve_eq_ok_iff.mp hfull).1
  · intro hpath
    exact ⟨_, resolve_eq_ok_iff.mpr ⟨hpath, rfl⟩⟩
  · intro full hfull
    obtain ⟨hpath, rfl⟩ := resolve_eq_ok_iff.mp hfull
    have hrelative : Path.isAbsolute path = false := by
      rw [Path.staysBelow_iff, Path.root_mem_components_iff] at hpath
      exact eq_false_of_ne_true hpath.1
    refine ⟨?_, fun files others hlook => ⟨hasFile_congr hfull hlook, readFile_congr hfull hlook⟩⟩
    rw [Path.components_join hrelative, Path.components_of_staysBelow hpath]
  · intro hout files
    have hpath : ¬ Path.staysBelow path = true := by
      rw [Path.staysBelow_iff]
      exact fun ⟨hroot, hup⟩ => hout.elim hroot hup
    have hresolve := resolve_of_not_staysBelow hpath root
    exact ⟨resolve_bind_error hresolve _, resolve_bind_error hresolve _⟩

/-- Dots inside a name do not go up, and two dots alone do. -/
theorem dotted_name_stays_below :
    resolve "shop/" "./src//..lib" = .ok "shop/./src//..lib" ∧
      components "shop/./src//..lib" = [.name "shop", .name "src", .name "..lib"] ∧
      ∀ files : Files, (files.project "shop/").hasFile "src/../../lib" =
        .error (.project "path 'src/../../lib' is not relative to the project root") := by
  have hresolve : resolve "shop/" "./src//..lib" = .ok "shop/./src//..lib" := by decide +kernel
  have hbelow := ((lookups_stay_below_the_root "shop/" "./src//..lib").2.1 _ hresolve).1
  have hroot : components "shop/" = [.name "shop"] := by decide +kernel
  have hmoves : moves "./src//..lib" = ["src", "..lib"] := by decide +kernel
  rw [hroot, hmoves] at hbelow
  have hup : .up ∈ components "src/../../lib" := by decide +kernel
  have hrefused := (lookups_stay_below_the_root "shop/" "src/../../lib").2.2 (.inr hup)
  exact ⟨hresolve, hbelow, fun files => (hrefused files).1⟩

end PushGoals.Files

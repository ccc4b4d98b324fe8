import PushGoals.Graph
import PushGoals.Proofs.Text.Brackets

/-!
# Graphs read back

A graph shows a name, the goals of a set in order as pairs of node and label, and the
declared preconditions in order as pairs of nodes.  A reader that follows the text from
its start finds exactly these: a node ends at the first blank, since sanitizing leaves
none in it; a label ends at the first quote that is not escaped; and the two characters
behind a node tell whether its line shows a label or an edge.  So sets are drawn alike
exactly when they show the same, whatever their names contain.
-/

namespace PushGoals.Graph

/-- The nodes with their labels, in the order of the set. -/
def nodes (set : GoalSet) : List (String × String) :=
  set.goals.map fun goal => (nodeId goal, goal.label)

/-- The edges from preconditions to goals, in the order of declaration. -/
def edges (set : GoalSet) : List (String × String) :=
  set.goals.flatMap fun goal => goal.dependsOn.map fun d => (nodeId d, nodeId goal)

/-- What a graph shows of a goal set. -/
structure Picture where
  name : String
  nodes : List (String × String)
  edges : List (String × String)
deriving DecidableEq

def picture (set : GoalSet) : Picture where
  name := sanitize set.name
  nodes := nodes set
  edges := edges set

/-! ## The reader -/

/-- A line between the braces. -/
inductive Line where
  | node (id label : String)
  | edge (source target : String)
deriving DecidableEq

namespace Line

def node? : Line → Option (String × String)
  | .node id label => some (id, label)
  | .edge .. => none

def edge? : Line → Option (String × String)
  | .node .. => none
  | .edge source target => some (source, target)

end Line

/-- Words end at a blank. -/
def inWord (c : Char) : Bool := !Text.isBlank c

/-- The characters up to the first blank, and what follows them. -/
def readWord (text : List Char) : String × List Char :=
  (String.ofList (text.takeWhile inWord), text.dropWhile inWord)

/-- The label behind an opening quote with its escapes undone, and what follows the quote
that ends it. -/
def readLabel : List Char → Option (List Char × List Char)
  | [] => none
  | '"' :: rest => some ([], rest)
  | '\\' :: c :: rest => (readLabel rest).map fun (label, after) => (c :: label, after)
  | c :: rest => (readLabel rest).map fun (label, after) => (c :: label, after)

def opening : List Char := " [label=\"".toList

def arrow : List Char := " -> ".toList

def indent : List Char := "\n    ".toList

def closing : List Char := "\n\x7d".toList

def readLine (text : List Char) : Option (Line × List Char) :=
  let (id, behind) := readWord text
  match opening.isPrefixOf? behind with
  | some quoted => do
      let (label, behind) ← readLabel quoted
      let behind ← List.isPrefixOf? [']'] behind
      some (.node id (String.ofList label), behind)
  | none => do
      let behind ← arrow.isPrefixOf? behind
      let (target, behind) := readWord behind
      some (.edge id target, behind)

/-- All lines up to the closing brace, at most as many as `fuel`. -/
def readLines : Nat → List Char → Option (List Line)
  | 0, _ => none
  | fuel + 1, text =>
      match indent.isPrefixOf? text with
      | some text => do
          let (line, behind) ← readLine text
          let later ← readLines fuel behind
          some (line :: later)
      | none => if text = closing then some [] else none

/-- How a graph begins, before and behind its name. -/
def title : List Char := "digraph ".toList

def brace : List Char := " \x7b\n    ".toList

def readBody (text : List Char) : Option (List Line) :=
  if text = closing then some []
  else do
    let text ← List.isPrefixOf? ['\n'] text
    readLines text.length text

def read (text : String) : Option Picture := do
  let behind ← title.isPrefixOf? text.toList
  let (name, behind) := readWord behind
  let behind ← brace.isPrefixOf? behind
  let behind ← ("\n    ".intercalate attributes).toList.isPrefixOf? behind
  let lines ← readBody behind
  some { name, nodes := lines.filterMap Line.node?, edges := lines.filterMap Line.edge? }

/-! ## Words and labels -/

theorem isPrefixOf?_append (front rest : List Char) :
    front.isPrefixOf? (front ++ rest) = some rest := by
  induction front with
  | nil => rfl
  | cons c front ih => rw [List.cons_append, List.isPrefixOf?, if_pos (beq_self_eq_true c), ih]

theorem inWord_sanitizeChar (c : Char) : inWord (sanitizeChar c) = true := by
  rw [sanitizeChar]
  split
  · decide
  · next hkept =>
      rw [Bool.or_eq_true, not_or] at hkept
      rw [inWord, eq_false_of_ne_true hkept.2]
      rfl

/-- What was sanitized is read up to its end, as long as a blank follows. -/
theorem readWord_sanitize (s : String) {c : Char} (hc : inWord c = false) (rest : List Char) :
    readWord ((sanitize s).toList ++ c :: rest) = (sanitize s, c :: rest) := by
  have hword : ∀ x ∈ (sanitize s).toList, inWord x = true := by
    rw [sanitize, String.toList_ofList]
    intro x hx
    obtain ⟨y, -, rfl⟩ := List.mem_map.mp hx
    exact inWord_sanitizeChar y
  have hstop : ¬ inWord c = true := ne_true_of_eq_false hc
  rw [readWord, List.takeWhile_append_of_pos hword, List.dropWhile_append_of_pos hword,
    List.takeWhile_cons_of_neg hstop, List.dropWhile_cons_of_neg hstop, List.append_nil,
    String.ofList_toList]

/-- A label is read up to the quote that ends it, whatever it contains and whatever
follows. -/
theorem readLabel_escapeLabel (label : String) (rest : List Char) :
    readLabel ((escapeLabel label).toList ++ '"' :: rest) = some (label.toList, rest) := by
  rw [escapeLabel, String.toList_ofList]
  induction label.toList with
  | nil => rfl
  | cons c label ih =>
      rw [List.flatMap_cons, List.append_assoc, escapeLabelChar]
      -- Only these two are escaped, and only they mean something to the reader.
      by_cases hbackslash : c = '\\'
      · subst hbackslash
        simp [readLabel, ih]
      · by_cases hquote : c = '"'
        · subst hquote
          simp [readLabel, ih]
        · simp [readLabel, hbackslash, hquote, ih]

example : readLabel "say \\\"go\\\"\"]".toList = some ("say \"go\"".toList, [']']) := rfl

/-! ## Lines -/

/-- The lines of a graph before they are written. -/
def shownLines (set : GoalSet) : List Line :=
  (nodes set).map (fun (id, label) => .node id label) ++
    (edges set).map fun (source, target) => .edge source target

/-- A line between two sanitized nodes, or between a node and its label. -/
def Line.text : Line → String
  | .node id label => id ++ " [label=\"" ++ escapeLabel label ++ "\"]"
  | .edge source target => source ++ " -> " ++ target

/-- The identifiers of a line are sanitized. -/
def Line.Sanitized : Line → Prop
  | .node id _ => ∃ raw, id = sanitize raw
  | .edge source target => ∃ raw other, source = sanitize raw ∧ target = sanitize other

theorem text_shownLines (set : GoalSet) : (shownLines set).map Line.text = lines set := by
  rw [shownLines, lines, List.map_append, nodes, edges, List.map_map, List.map_map, List.map_map,
    List.map_flatMap]
  congr 1
  refine List.flatMap_congr fun goal _ => ?_
  rw [edgeLines, List.map_map]
  rfl

theorem sanitized_shownLines (set : GoalSet) : ∀ line ∈ shownLines set, line.Sanitized := by
  intro line hline
  rcases List.mem_append.mp hline with hnode | hedge
  · obtain ⟨⟨id, label⟩, hmem, rfl⟩ := List.mem_map.mp hnode
    obtain ⟨goal, -, heq⟩ := List.mem_map.mp hmem
    cases heq
    exact ⟨_, rfl⟩
  · obtain ⟨⟨source, target⟩, hmem, rfl⟩ := List.mem_map.mp hedge
    obtain ⟨goal, -, hdependsOn⟩ := List.mem_flatMap.mp hmem
    obtain ⟨d, -, heq⟩ := List.mem_map.mp hdependsOn
    cases heq
    exact ⟨_, _, rfl, rfl⟩

/-- A line is read up to its end, which a line break marks. -/
theorem readLine_text {line : Line} (hline : line.Sanitized) (rest : List Char) :
    readLine (line.text.toList ++ '\n' :: rest) = some (line, '\n' :: rest) := by
  cases line with
  | node id label =>
      obtain ⟨raw, rfl⟩ := hline
      have htext : (Line.node (sanitize raw) label).text.toList ++ '\n' :: rest =
          (sanitize raw).toList ++
            (opening ++ ((escapeLabel label).toList ++ '"' :: ']' :: '\n' :: rest)) := by
        have hending : "\"]".toList = ['"', ']'] := rfl
        simp only [Line.text, String.toList_append, List.append_assoc, hending,
          List.cons_append, List.nil_append]
        rfl
      have hword (quoted : List Char) : readWord ((sanitize raw).toList ++ (opening ++ quoted)) =
          (sanitize raw, opening ++ quoted) :=
        readWord_sanitize raw rfl _
      rw [htext, readLine, hword]
      simp only [isPrefixOf?_append, readLabel_escapeLabel, String.ofList_toList,
        Option.bind_eq_bind, Option.bind_some]
      rfl
  | edge source target =>
      obtain ⟨raw, other, rfl, rfl⟩ := hline
      have htext : (Line.edge (sanitize raw) (sanitize other)).text.toList ++ '\n' :: rest =
          (sanitize raw).toList ++ (arrow ++ ((sanitize other).toList ++ '\n' :: rest)) := by
        simp only [Line.text, String.toList_append, List.append_assoc]
        rfl
      have hword (behind : List Char) : readWord ((sanitize raw).toList ++ (arrow ++ behind)) =
          (sanitize raw, arrow ++ behind) :=
        readWord_sanitize raw rfl _
      -- The second character behind the node is no bracket.
      have hedge (behind : List Char) : opening.isPrefixOf? (arrow ++ behind) = none := rfl
      rw [htext, readLine, hword]
      simp only [hedge, isPrefixOf?_append, Option.bind_eq_bind, Option.bind_some,
        readWord_sanitize other (rfl : inWord '\n' = false)]

/-- Lines as they are written, each behind its indentation. -/
def written (shown : List Line) : List Char :=
  shown.flatMap (fun line => indent ++ line.text.toList) ++ closing

theorem written_cons (line : Line) (later : List Line) :
    written (line :: later) = indent ++ (line.text.toList ++ written later) := by
  rw [written, List.flatMap_cons, List.append_assoc, List.append_assoc, ← written]

/-- Behind a line the text breaks off, whether another line follows or not. -/
theorem written_eq_newline (shown : List Line) : ∃ rest, written shown = '\n' :: rest := by
  cases shown with
  | nil => exact ⟨_, rfl⟩
  | cons line later => exact ⟨_, written_cons line later⟩

theorem length_lt_length_written (shown : List Line) : shown.length < (written shown).length := by
  induction shown with
  | nil => decide
  | cons line later ih =>
      have hindent : 0 < indent.length := by decide
      rw [written_cons, List.length_cons, List.length_append, List.length_append]
      omega

theorem readLines_written {shown : List Line} (hshown : ∀ line ∈ shown, line.Sanitized)
    {fuel : Nat} (hfuel : shown.length < fuel) : readLines fuel (written shown) = some shown := by
  induction shown generalizing fuel with
  | nil =>
      obtain ⟨fuel, rfl⟩ := Nat.exists_eq_add_one.mpr hfuel
      rfl
  | cons line later ih =>
      obtain ⟨hline, hlater⟩ := List.forall_mem_cons.mp hshown
      obtain ⟨fuel, rfl⟩ := Nat.exists_eq_add_one.mpr (Nat.zero_lt_of_lt hfuel)
      obtain ⟨rest, hrest⟩ := written_eq_newline later
      have hread := readLine_text hline rest
      rw [← hrest] at hread
      rw [readLines, written_cons, isPrefixOf?_append]
      simp only [hread, ih hlater (Nat.lt_of_succ_lt_succ hfuel), Option.bind_eq_bind,
        Option.bind_some]

/-! ## Graphs -/

theorem filterMap_node?_shownLines (set : GoalSet) :
    (shownLines set).filterMap Line.node? = nodes set := by
  rw [shownLines, List.filterMap_append, List.filterMap_map, List.filterMap_map]
  have hnodes : (nodes set).filterMap (Line.node? ∘ fun (id, label) => .node id label) =
      nodes set := List.filterMap_some
  have hedges : (edges set).filterMap
      (Line.node? ∘ fun (source, target) => .edge source target) = [] :=
    List.filterMap_eq_nil_iff.mpr fun _ _ => rfl
  rw [hnodes, hedges, List.append_nil]

theorem filterMap_edge?_shownLines (set : GoalSet) :
    (shownLines set).filterMap Line.edge? = edges set := by
  rw [shownLines, List.filterMap_append, List.filterMap_map, List.filterMap_map]
  have hnodes : (nodes set).filterMap (Line.edge? ∘ fun (id, label) => .node id label) = [] :=
    List.filterMap_eq_nil_iff.mpr fun _ _ => rfl
  have hedges : (edges set).filterMap
      (Line.edge? ∘ fun (source, target) => .edge source target) = edges set :=
    List.filterMap_some
  rw [hnodes, hedges, List.nil_append]

/-- What stands behind the attributes: the lines, if there are any, and the closing brace. -/
def body (shown : List Line) : List Char :=
  if shown.isEmpty then closing else '\n' :: written shown

theorem readBody_body {shown : List Line} (hshown : ∀ line ∈ shown, line.Sanitized) :
    readBody (body shown) = some shown := by
  cases shown with
  | nil => rfl
  | cons line later =>
      have hopen : body (line :: later) ≠ closing := by
        rw [body, written_cons]
        exact fun heq => nomatch heq
      rw [readBody, if_neg hopen]
      exact readLines_written hshown (length_lt_length_written _)

theorem toList_render (set : GoalSet) :
    (render set).toList =
      title ++ ((sanitize set.name).toList ++ (brace ++
        (("\n    ".intercalate attributes).toList ++ body (shownLines set)))) := by
  simp only [render, ← text_shownLines]
  generalize "\n    ".intercalate attributes = style
  cases shownLines set with
  | nil =>
      simp only [String.toList_append, List.append_assoc]
      rfl
  | cons line later =>
      have hlines : ("\n    ".intercalate ((line :: later).map Line.text)).toList =
          line.text.toList ++ later.flatMap fun line => indent ++ line.text.toList := by
        rw [String.toList_intercalate, List.map_cons, List.map_cons, Brackets.intercalate_cons,
          List.map_map, List.flatMap_map]
        rfl
      rw [body, written_cons, written]
      simp only [List.map_cons, List.isEmpty_cons, Bool.false_eq_true, if_false] at hlines ⊢
      simp only [String.toList_append, hlines, List.append_assoc]
      rfl

theorem read_render (set : GoalSet) : read (render set) = some (picture set) := by
  have hname (rest : List Char) : readWord ((sanitize set.name).toList ++ (brace ++ rest)) =
      (sanitize set.name, brace ++ rest) :=
    readWord_sanitize set.name rfl _
  rw [read, toList_render, isPrefixOf?_append]
  simp only [hname, isPrefixOf?_append, readBody_body (sanitized_shownLines set),
    filterMap_node?_shownLines, filterMap_edge?_shownLines, Option.bind_eq_bind,
    Option.bind_some]
  rfl

/-- A graph is determined by what it shows. -/
theorem render_eq_of_picture_eq {a b : GoalSet} (heq : picture a = picture b) :
    render a = render b := by
  obtain ⟨hname, hnodes, hedges⟩ := Picture.mk.inj heq
  rw [← String.toList_inj, toList_render, toList_render, hname, shownLines, shownLines, hnodes,
    hedges]

/-- Two sets are drawn alike exactly when they show the same name, the same labelled nodes
in the same order and the same edges in the same order; what a set shows can be read off
its graph; and a label ends at its own closing quote. -/
theorem graph_loses_nothing :
    (∀ a b : GoalSet, render a = render b ↔
      sanitize a.name = sanitize b.name ∧ nodes a = nodes b ∧ edges a = edges b) ∧
    (∀ set : GoalSet, read (render set) = some (picture set)) ∧
    ∀ (label : String) (rest : List Char),
      readLabel ((escapeLabel label).toList ++ '"' :: rest) = some (label.toList, rest) := by
  refine ⟨fun a b => ⟨fun heq => ?_, fun ⟨hname, hnodes, hedges⟩ => ?_⟩, read_render,
    readLabel_escapeLabel⟩
  · have hpicture := read_render a
    rw [heq, read_render b] at hpicture
    exact Picture.mk.inj (Option.some.inj hpicture).symm
  · exact render_eq_of_picture_eq (by rw [picture, picture, hname, hnodes, hedges])

end PushGoals.Graph

import SecScan.Cli.ScanCommand
import SecScan.Proofs.Runs

/-!
What a directory scan reads. In a tree of directories and regular files (`Plain`), a scan of a
directory reads exactly the files it admits below it (`Admitted`): those whose directories on
the way down are all entered and whose own extension, name and size pass; it reads each of them
once, in the walk's order (`walksBefore`: a directory's files by name, then its subdirectories
by name, each walked in turn), reports each by the text of its real path, passes none over, and
scans each in the language given or else the one its path names (`scanDirectory_admitted`).

The proof follows the walk. A path's text walks back to the path (`locate_absoluteText`), so
the walk sees each child as the node the tree holds there. One level of the walk reads the
level's files and then the levels below its directories (`levelPaths`), and an induction on the
walk's depth (`walkFiles_admitted`) gives the files it reads; the depth it is given covers every
file, since a path of a tree is no longer than the tree's list of nodes (`length_le_nodes`).
-/

namespace SecScan.Proofs.DirectoryWalk

open SecScan.Files SecScan.Cli SecScan.Config SecScan.Text SecScan.Proofs.Runs

section PathText

/-- A name a directory can hold: not empty, not `.` or `..`, and without a slash. -/
def ValidName (n : String) : Prop := n ≠ "" ∧ n ≠ "." ∧ n ≠ ".." ∧ '/' ∉ n.toList

instance : DecidablePred ValidName := fun _ => inferInstanceAs (Decidable (_ ∧ _ ∧ _ ∧ _))

theorem toList_absoluteText (comps : List String) :
    (absoluteText comps).toList = '/' :: ['/'].intercalate (comps.map String.toList) := by
  unfold absoluteText SecScan.Files.pathText
  rw [String.toList_append, String.toList_intercalate]
  rfl

/-- The absolute text of a path of names splits back into those names after the root's empty
part. -/
theorem slashParts_absoluteText {comps : List String} (noSlash : ∀ n ∈ comps, '/' ∉ n.toList)
    (below : comps ≠ []) : slashParts (absoluteText comps) = "" :: comps := by
  unfold slashParts
  rw [toList_absoluteText, List.splitOn_cons_eq_if_modifyHead, if_pos (by decide),
    List.splitOn_intercalate]
  · simp
  · simpa using noSlash
  · simpa using below

theorem slashParts_root : slashParts (absoluteText []) = ["", ""] := by decide

/-- The text of a path of names ends with its last name. -/
theorem absoluteText_concat (front : List String) (last : String) :
    ∃ pre, (absoluteText (front ++ [last])).toList = pre ++ last.toList := by
  unfold absoluteText SecScan.Files.pathText
  by_cases single : front = []
  · subst single
    exact ⟨['/'], by simp only [List.nil_append, String.intercalate_singleton,
      String.toList_append]; rfl⟩
  · rw [String.intercalate_append_of_ne_nil single (List.cons_ne_nil last []),
      String.intercalate_singleton]
    exact ⟨("/" ++ ("/".intercalate front ++ "/")).toList, by
      simp only [String.toList_append, List.append_assoc]⟩

theorem absoluteText_ne_empty (comps : List String) : absoluteText comps ≠ "" := by
  intro empty
  have chars := congrArg String.toList empty
  rw [toList_absoluteText, String.toList_empty] at chars
  cases chars

/-- The text of a path of names ends with a slash only at the root. -/
theorem endsWith_slash_absoluteText {dir : List String} (dirNamed : ∀ m ∈ dir, ValidName m)
    (below : dir ≠ []) : (absoluteText dir).endsWith "/" = false := by
  have lastNamed := dirNamed (dir.getLast below) (List.getLast_mem below)
  have filled : (dir.getLast below).toList ≠ [] :=
    fun empty => lastNamed.1 (String.toList_eq_nil_iff.mp empty)
  obtain ⟨pre, chars⟩ := absoluteText_concat dir.dropLast (dir.getLast below)
  rw [List.dropLast_append_getLast below] at chars
  rw [Bool.eq_false_iff]
  intro ends
  rw [String.endsWith_eq_endsWith_toSlice, String.Slice.endsWith_string_iff, String.copy_toSlice,
    chars] at ends
  have lastChar := List.singleton_suffix_iff_getLast?_eq_some.mp ends
  rw [List.getLast?_append_of_ne_nil pre filled] at lastChar
  exact lastNamed.2.2.2 (List.mem_of_getLast? lastChar)

/-- Joining a name to the text of a directory gives the text of the path one level down. -/
theorem joinPath_absoluteText {dir : List String} {n : String} (named : ValidName n)
    (dirNamed : ∀ m ∈ dir, ValidName m) :
    joinPath (absoluteText dir) n = absoluteText (dir ++ [n]) := by
  have relative : n.startsWith "/" = false := by
    rw [String.startsWith_string_eq_false_iff]
    intro pre
    exact named.2.2.2 (pre.subset (by decide))
  unfold joinPath
  rw [if_neg (by simp [relative])]
  by_cases root : dir = []
  · subst root
    have slash : (absoluteText []).endsWith "/" = true := by
      rw [String.endsWith_eq_endsWith_toSlice, String.Slice.endsWith_string_iff,
        String.copy_toSlice]
      exact List.suffix_refl _
    rw [if_pos (by simp [slash])]
    unfold absoluteText SecScan.Files.pathText
    rw [List.nil_append, String.intercalate_singleton, String.intercalate_nil, String.append_empty]
  · have filled : (absoluteText dir).isEmpty = false :=
      String.isEmpty_eq_false_iff.mpr (absoluteText_ne_empty dir)
    rw [if_neg (by simp [filled, endsWith_slash_absoluteText dirNamed root])]
    unfold absoluteText SecScan.Files.pathText
    rw [String.intercalate_append_of_ne_nil root (List.cons_ne_nil n []),
      String.intercalate_singleton, String.append_assoc, String.append_assoc, String.append_assoc]

end PathText

section Plain

deriving instance DecidableEq for Node

/-- Whether a node is a symbolic link. -/
def isLinkNode : Node → Bool
  | .link _ => true
  | _ => false

/-- A tree of directories and regular files: each path is known once, by names a directory can
hold, every path on the way to it is a directory, and none is a link. -/
structure Plain (t : Tree) : Prop where
  keys_nodup : (t.nodes.map (·.1)).Nodup
  no_links : ∀ e ∈ t.nodes, isLinkNode e.2 = false
  named : ∀ e ∈ t.nodes, e.1 ≠ [] ∧ ∀ n ∈ e.1, ValidName n
  parents : ∀ e ∈ t.nodes, ∀ k < e.1.length, t.at? (e.1.take k) = some .dir

variable {t : Tree} {p : List String} {node : Node}

theorem lookup_of_mem {α β : Type} [BEq α] [LawfulBEq α] {l : List (α × β)} {k : α} {v : β}
    (keys : (l.map (·.1)).Nodup) (mem : (k, v) ∈ l) : l.lookup k = some v := by
  induction l with
  | nil => cases mem
  | cons e rest ih =>
    obtain ⟨k', v'⟩ := e
    rw [List.map_cons, List.nodup_cons] at keys
    rw [List.lookup_cons]
    rcases List.mem_cons.mp mem with same | later
    · cases same
      rw [beq_self_eq_true]
    · have inRest : k ∈ rest.map (·.1) := List.mem_map_of_mem (f := (·.1)) later
      have other : k ≠ k' := fun same => keys.1 (same ▸ inRest)
      rw [beq_false_of_ne other]
      exact ih keys.2 later

theorem mem_of_lookup {α β : Type} [BEq α] [LawfulBEq α] {l : List (α × β)} {k : α} {v : β}
    (found : l.lookup k = some v) : (k, v) ∈ l := by
  obtain ⟨front, back, split, -⟩ := List.lookup_eq_some_iff.mp found
  rw [split]
  exact List.mem_append_right _ List.mem_cons_self

theorem at?_of_mem (plain : Plain t) (mem : (p, node) ∈ t.nodes) : t.at? p = some node := by
  unfold Tree.at?
  rw [if_neg (by simpa using (plain.named _ mem).1)]
  exact lookup_of_mem plain.keys_nodup mem

theorem mem_of_at? (below : p ≠ []) (found : t.at? p = some node) : (p, node) ∈ t.nodes := by
  unfold Tree.at? at found
  rw [if_neg (by simpa using below)] at found
  exact mem_of_lookup found

/-- What a plain tree holds at a path: the root directory, or a node it lists. -/
theorem at?_cases (found : t.at? p = some node) :
    (p = [] ∧ node = .dir) ∨ (p, node) ∈ t.nodes := by
  by_cases root : p = []
  · subst root
    exact .inl ⟨rfl, (Option.some.inj found).symm⟩
  · exact .inr (mem_of_at? root found)

theorem at?_not_link (plain : Plain t) (found : t.at? p = some node) : isLinkNode node = false := by
  rcases at?_cases found with ⟨-, rfl⟩ | mem
  · rfl
  · exact plain.no_links _ mem

theorem at?_named (plain : Plain t) (found : t.at? p = some node) : ∀ n ∈ p, ValidName n := by
  rcases at?_cases found with ⟨rfl, -⟩ | mem
  · intro n member
    cases member
  · exact (plain.named _ mem).2

theorem at?_parents (plain : Plain t) (found : t.at? p = some node) :
    ∀ k < p.length, t.at? (p.take k) = some .dir := by
  rcases at?_cases found with ⟨rfl, -⟩ | mem
  · intro k below
    cases below
  · exact plain.parents _ mem

/-- A path in a plain tree is no longer than the list of its nodes: each nonempty start of it is
a node of its own. -/
theorem length_le_nodes (plain : Plain t) (found : t.at? p = some node) :
    p.length ≤ t.nodes.length := by
  have starts : ((List.range p.length).map fun k => p.take (k + 1)).Nodup := by
    refine List.Nodup.map_on ?_ List.nodup_range
    intro i inI j inJ same
    have lengths := congrArg List.length same
    simp only [List.length_take, List.mem_range] at lengths inI inJ
    omega
  have known : ((List.range p.length).map fun k => p.take (k + 1)) ⊆ t.nodes.map (·.1) := by
    intro q member
    obtain ⟨k, inRange, rfl⟩ := List.mem_map.mp member
    rw [List.mem_range] at inRange
    -- a proper start is a directory on the way, the whole path the node itself
    have there : ∃ m, t.at? (p.take (k + 1)) = some m := by
      by_cases whole : k + 1 = p.length
      · rw [whole, List.take_length]
        exact ⟨node, found⟩
      · exact ⟨.dir, at?_parents plain found (k + 1) (by omega)⟩
    obtain ⟨m, atStart⟩ := there
    have below : p.take (k + 1) ≠ [] := by
      intro empty
      rcases List.take_eq_nil_iff.mp empty with none | rfl
      · omega
      · cases inRange
    exact List.mem_map_of_mem (f := (·.1)) (mem_of_at? below atStart)
  simpa using List.Nodup.length_le_of_subset starts known

end Plain

section Lookup

variable {t : Tree} {p : List String} {node : Node}

theorem walkNames_nil (b : Bool) (fuel : Nat) (dir : List String) :
    t.walkNames b (fuel + 1) dir [] = .ok dir := by
  rw [Tree.walkNames]
  exact Nat.succ_ne_zero fuel

theorem walkNames_blank (b : Bool) (fuel : Nat) (dir rest : List String) :
    t.walkNames b (fuel + 1) dir ("" :: rest) = t.walkNames b (fuel + 1) dir rest := by
  rw [Tree.walkNames, if_pos (by decide)]

/-- Walking valid names through directories to a node that is no link reaches that node. -/
theorem walkNames_names (b : Bool) (fuel : Nat) :
    ∀ (names dir : List String), (∀ n ∈ names, ValidName n) →
      (∀ k < names.length, t.at? (dir ++ names.take k) = some .dir) →
      (names ≠ [] → ∃ m, t.at? (dir ++ names) = some m ∧ isLinkNode m = false) →
      t.walkNames b (fuel + 1) dir names = .ok (dir ++ names) := by
  intro names
  induction names with
  | nil =>
    intro dir _ _ _
    rw [walkNames_nil, List.append_nil]
  | cons n rest ih =>
    intro dir named onTheWay last
    obtain ⟨filled, notDot, notUp, -⟩ := named n List.mem_cons_self
    rw [Tree.walkNames, if_neg (by simp [notDot, filled]), if_neg (by simpa using notUp)]
    dsimp only
    by_cases final : rest = []
    · subst final
      obtain ⟨m, found, plainNode⟩ := last (List.cons_ne_nil n [])
      rw [found]
      -- the last name reaches a directory or a file
      cases m with
      | dir => rw [walkNames_nil]
      | file content => rfl
      | link target => cases plainNode
    · have step : t.at? (dir ++ [n]) = some .dir := by
        simpa using onTheWay 1 (by simpa using List.length_pos_iff.mpr final)
      rw [step]
      have rest' := ih (dir ++ [n]) (fun m member => named m (List.mem_cons_of_mem n member))
        (fun k below => by simpa using onTheWay (k + 1) (by simpa using below))
        (fun _ => by simpa using last (List.cons_ne_nil n rest))
      simpa using rest'

/-- Every path of a plain tree is found again from its absolute text, wherever the walk starts. -/
theorem locate_absoluteText (plain : Plain t) (found : t.at? p = some node) (cwd : List String)
    (b : Bool) : t.locate cwd (absoluteText p) b = .ok p := by
  have absolute : (absoluteText p).startsWith "/" = true := by
    rw [String.startsWith_string_iff, toList_absoluteText]
    exact ⟨_, rfl⟩
  have filled : (absoluteText p).isEmpty = false :=
    String.isEmpty_eq_false_iff.mpr (absoluteText_ne_empty p)
  unfold Tree.locate
  simp only [absolute, filled, if_true, Bool.false_eq_true, if_false]
  -- the root's text is a lone slash; any other path's text is a slash before each name
  by_cases root : p = []
  · subst root
    rw [slashParts_root, walkNames_blank, walkNames_blank, walkNames_nil]
  · have onTheWay : ∀ k < p.length, t.at? ([] ++ p.take k) = some .dir := by
      simpa using at?_parents plain found
    have last : p ≠ [] → ∃ m, t.at? ([] ++ p) = some m ∧ isLinkNode m = false :=
      fun _ => ⟨node, by simpa using found, at?_not_link plain found⟩
    rw [slashParts_absoluteText (fun n member => (at?_named plain found n member).2.2.2) root,
      walkNames_blank, walkNames_names b 40 p [] (at?_named plain found) onTheWay last,
      List.nil_append]

theorem stat_absoluteText (plain : Plain t) (found : t.at? p = some node) (cwd : List String) :
    t.stat cwd (absoluteText p) = .ok node := by
  unfold Tree.stat
  rw [locate_absoluteText plain found cwd true]
  simp only [bind, Except.bind, found]
  rfl

theorem isDir_absoluteText (plain : Plain t) (found : t.at? p = some node) (cwd : List String) :
    t.isDir cwd (absoluteText p) = decide (node = .dir) := by
  unfold Tree.isDir
  rw [stat_absoluteText plain found cwd]
  cases node <;> rfl

theorem isLink_absoluteText (plain : Plain t) (found : t.at? p = some node) (cwd : List String) :
    t.isLink cwd (absoluteText p) = false := by
  unfold Tree.isLink
  rw [locate_absoluteText plain found cwd false]
  dsimp only
  rw [found]
  have notLink := at?_not_link plain found
  cases node with
  | link target => cases notLink
  | _ => rfl

theorem read_absoluteText (plain : Plain t) {content : ByteArray}
    (found : t.at? p = some (.file content)) (cwd : List String) :
    t.read cwd (absoluteText p) = .ok (some content) := by
  unfold Tree.read
  rw [stat_absoluteText plain found cwd]
  rfl

end Lookup

section Children

variable {t : Tree} {dir : List String} {n : String}

/-- A path one name longer than `dir` that starts with `dir` and ends with `n` is `dir ++ [n]`. -/
theorem eq_append_of_child {q : List String} (len : q.length = dir.length + 1)
    (front : q.take dir.length = dir) (last : q.getLast? = some n) : q = dir ++ [n] := by
  obtain ⟨x, tail⟩ : ∃ x, q.drop dir.length = [x] :=
    List.length_eq_one_iff.mp (by rw [List.length_drop, len, Nat.add_sub_cancel_left])
  have split := List.take_append_drop dir.length q
  rw [front, tail] at split
  rw [← split, List.getLast?_append, List.getLast?_singleton, Option.some_or] at last
  rw [← split, Option.some.inj last]

/-- The pick `children` makes of one key: the last name of a key one level below `dir`. -/
def childName (dir q : List String) : Option String :=
  if q.length == dir.length + 1 && q.take dir.length == dir then q.getLast? else none

theorem childName_eq_some {q : List String} : childName dir q = some n ↔ q = dir ++ [n] := by
  unfold childName
  constructor
  · intro picked
    split at picked
    · rename_i below
      simp only [Bool.and_eq_true, beq_iff_eq] at below
      exact eq_append_of_child below.1 below.2 picked
    · cases picked
  · rintro rfl
    simp

theorem children_eq (t : Tree) (dir : List String) :
    t.children dir = ((t.nodes.map (·.1)).filterMap (childName dir)).mergeSort
      fun a b => a ≤ b := by
  unfold Tree.children
  rw [List.filterMap_map]
  rfl

/-- The children of a directory are the names one level below it. -/
theorem mem_children (plain : Plain t) :
    n ∈ t.children dir ↔ ∃ m, t.at? (dir ++ [n]) = some m := by
  rw [children_eq, List.mem_mergeSort, List.mem_filterMap]
  constructor
  · rintro ⟨q, key, picked⟩
    rw [childName_eq_some] at picked
    subst picked
    obtain ⟨⟨q, m⟩, mem, rfl⟩ := List.mem_map.mp key
    exact ⟨m, at?_of_mem plain mem⟩
  · rintro ⟨m, found⟩
    exact ⟨dir ++ [n], List.mem_map_of_mem (f := (·.1)) (mem_of_at? (by simp) found),
      childName_eq_some.mpr rfl⟩

/-- The children of a directory come in strictly increasing order. -/
theorem children_sorted (plain : Plain t) : (t.children dir).Pairwise (· < ·) := by
  rw [children_eq]
  have distinct : ((t.nodes.map (·.1)).filterMap (childName dir)).Nodup := by
    refine List.Nodup.filterMap ?_ plain.keys_nodup
    intro q q' name picked picked'
    rw [Option.mem_def, childName_eq_some] at picked picked'
    rw [picked, picked']
  have sorted : (((t.nodes.map (·.1)).filterMap (childName dir)).mergeSort
      fun a b => decide (a ≤ b)).Pairwise fun a b => decide (a ≤ b) = true :=
    @List.pairwise_mergeSort String (fun a b => decide (a ≤ b))
      (fun (a b c : String) ab bc =>
        decide_eq_true (le_trans (of_decide_eq_true ab) (of_decide_eq_true bc)))
      (fun (a b : String) => by simpa using le_total a b) _
  refine (sorted.and ((List.mergeSort_perm _ _).nodup_iff.mpr distinct)).imp ?_
  rintro a b ⟨le, ne⟩
  exact lt_of_le_of_ne (of_decide_eq_true le) ne

end Children

section Walk

/-- The order of a directory walk on paths below a directory: at the first name where two paths
part, a file comes before a directory and otherwise the smaller name first. -/
def walksBefore : List String → List String → Bool
  | a :: p, b :: q =>
    if a = b then walksBefore p q
    else (p.isEmpty && !q.isEmpty) || (p.isEmpty == q.isEmpty && decide (a < b))
  | _, _ => false

theorem walksBefore_cons_self (a : String) (p q : List String) :
    walksBefore (a :: p) (a :: q) = walksBefore p q := by
  rw [walksBefore, if_pos rfl]

theorem walksBefore_files {a b : String} (less : a < b) : walksBefore [a] [b] = true := by
  rw [walksBefore, if_neg (ne_of_lt less)]
  simp only [List.isEmpty_nil, Bool.not_true, Bool.and_false, beq_self_eq_true, Bool.true_and,
    Bool.false_or, decide_eq_true_eq]
  exact less

theorem walksBefore_file_dir {a b : String} {q : List String} (other : a ≠ b) (below : q ≠ []) :
    walksBefore [a] (b :: q) = true := by
  rw [walksBefore, if_neg other, List.isEmpty_eq_false_iff.mpr below]
  rfl

theorem walksBefore_dirs {a b : String} {p q : List String} (less : a < b) (belowP : p ≠ [])
    (belowQ : q ≠ []) : walksBefore (a :: p) (b :: q) = true := by
  rw [walksBefore, if_neg (ne_of_lt less), List.isEmpty_eq_false_iff.mpr belowP,
    List.isEmpty_eq_false_iff.mpr belowQ]
  simp only [Bool.false_and, beq_self_eq_true, Bool.true_and, Bool.false_or, decide_eq_true_eq]
  exact less

/-- A file a directory scan of `dir` reads, by its path `rel` below `dir`: every directory
strictly between is entered (it is not a build, cache or version control directory, not a
package's metadata, and not excluded), and the file's extension is not a binary one, its name
is not excluded and it is no larger than the limit. -/
structure Admitted (t : Tree) (s : ScanSettings) (dir rel : List String) : Prop where
  below : rel ≠ []
  file : ∃ content, t.at? (dir ++ rel) = some (.file content) ∧
    (content.size : Int) ≤ s.maxFileSize
  entered : ∀ n ∈ rel.dropLast,
    n ∉ skippedDirs ∧ n.endsWith ".egg-info" = false ∧ n ∉ s.excludePatterns
  suffix : toLower (pathSuffix (rel.getLast below)) ∉ skippedSuffixes
  kept : rel.getLast below ∉ s.excludePatterns

theorem entersDir_iff (s : ScanSettings) (n : String) :
    entersDir s n = true ↔
      n ∉ skippedDirs ∧ n.endsWith ".egg-info" = false ∧ n ∉ s.excludePatterns := by
  simp only [entersDir, List.contains_eq_mem, Bool.and_eq_true, Bool.not_eq_eq_eq_not,
    Bool.not_true, decide_eq_false_iff_not, and_assoc]

theorem admitted_single {t : Tree} {s : ScanSettings} {dir : List String} {n : String} :
    Admitted t s dir [n] ↔ (∃ content, t.at? (dir ++ [n]) = some (.file content) ∧
      (content.size : Int) ≤ s.maxFileSize) ∧
      toLower (pathSuffix n) ∉ skippedSuffixes ∧ n ∉ s.excludePatterns := by
  constructor
  · intro admitted
    exact ⟨admitted.file, admitted.suffix, admitted.kept⟩
  · rintro ⟨file, suffix, kept⟩
    exact ⟨List.cons_ne_nil n [], file, by simp, suffix, kept⟩

/-- A file deeper down is read from `dir` when the scan enters the first directory on its way and
reads it from there. -/
theorem admitted_cons {t : Tree} {s : ScanSettings} {dir rest : List String} {d : String}
    (deeper : rest ≠ []) :
    Admitted t s dir (d :: rest) ↔ entersDir s d = true ∧ Admitted t s (dir ++ [d]) rest := by
  have path : dir ++ d :: rest = dir ++ [d] ++ rest := by simp
  have front : (d :: rest).dropLast = d :: rest.dropLast := List.dropLast_cons_of_ne_nil deeper
  have last : (d :: rest).getLast (List.cons_ne_nil d rest) = rest.getLast deeper :=
    List.getLast_cons deeper
  constructor
  · intro admitted
    obtain ⟨_, file, entered, suffix, kept⟩ := admitted
    rw [path] at file
    rw [front] at entered
    rw [last] at suffix kept
    exact ⟨(entersDir_iff s d).mpr (entered d List.mem_cons_self),
      deeper, file, fun n member => entered n (List.mem_cons_of_mem d member), suffix, kept⟩
  · rintro ⟨enters, _, file, entered, suffix, kept⟩
    refine ⟨List.cons_ne_nil d rest, path ▸ file, ?_, last ▸ suffix, last ▸ kept⟩
    rw [front]
    intro n member
    rcases List.mem_cons.mp member with rfl | inner
    · exact (entersDir_iff s n).mp enters
    · exact entered n inner

section Step

variable {t : Tree} {s : ScanSettings} {dir : List String} {n : String} {m : Node}

/-- A child's text is the text of the path one level down. -/
theorem joinPath_child (plain : Plain t) (found : t.at? (dir ++ [n]) = some m) :
    joinPath (absoluteText dir) n = absoluteText (dir ++ [n]) :=
  joinPath_absoluteText (at?_named plain found n (by simp))
    (fun d member => at?_named plain found d (List.mem_append_left [n] member))

/-- The walk reads a child of a directory as a file exactly when the child is a file it reads. -/
theorem reads_child_iff (plain : Plain t) (found : t.at? (dir ++ [n]) = some m) :
    (!t.isDir [] (joinPath (absoluteText dir) n) &&
      readsFile t s n (joinPath (absoluteText dir) n)) = true ↔ Admitted t s dir [n] := by
  rw [admitted_single, joinPath_child plain found, isDir_absoluteText plain found]
  unfold readsFile
  rw [stat_absoluteText plain found]
  cases m with
  | dir =>
    simp only [decide_true, Bool.not_true, Bool.false_and, Bool.false_eq_true, false_iff]
    rintro ⟨⟨content, isFile, -⟩, -⟩
    rw [found] at isFile
    cases isFile
  | file content =>
    simp only [found, Option.some.injEq, Node.file.injEq, exists_eq_left', reduceCtorEq,
      decide_false, Bool.not_false, Bool.true_and, Bool.and_eq_true, Bool.not_eq_eq_eq_not,
      Bool.not_true, List.contains_eq_mem, decide_eq_false_iff_not, decide_eq_true_eq]
    exact and_comm
  | link target => cases at?_not_link plain found

/-- The walk enters a child of a directory exactly when the child is a directory it enters. -/
theorem enters_child_iff (plain : Plain t) (found : t.at? (dir ++ [n]) = some m) :
    (t.isDir [] (joinPath (absoluteText dir) n) && entersDir s n) = true ↔
      m = .dir ∧ entersDir s n = true := by
  rw [joinPath_child plain found, isDir_absoluteText plain found, Bool.and_eq_true,
    decide_eq_true_eq]

/-- The children of `dir` the walk reads as files, in order. -/
def filesAt (t : Tree) (s : ScanSettings) (dir : List String) : List String :=
  (t.children dir).filter fun n =>
    !t.isDir [] (joinPath (absoluteText dir) n) && readsFile t s n (joinPath (absoluteText dir) n)

/-- The children of `dir` the walk enters, in order. -/
def dirsAt (t : Tree) (s : ScanSettings) (dir : List String) : List String :=
  (t.children dir).filter fun n => t.isDir [] (joinPath (absoluteText dir) n) && entersDir s n

/-- One level of the walk: the files of the directory, then the walk of each directory it
enters that is no link. -/
theorem walkFiles_succ (fuel : Nat) :
    walkFiles t s (fuel + 1) (absoluteText dir) dir =
      (filesAt t s dir).map (joinPath (absoluteText dir) ·) ++ (dirsAt t s dir).flatMap fun d =>
        if t.isLink [] (joinPath (absoluteText dir) d) then []
        else walkFiles t s fuel (joinPath (absoluteText dir) d) (dir ++ [d]) := rfl

theorem mem_filesAt (plain : Plain t) : n ∈ filesAt t s dir ↔ Admitted t s dir [n] := by
  unfold filesAt
  rw [List.mem_filter]
  constructor
  · rintro ⟨member, picked⟩
    obtain ⟨m, found⟩ := (mem_children plain).mp member
    exact (reads_child_iff plain found).mp picked
  · intro admitted
    obtain ⟨content, found, -⟩ := admitted.file
    exact ⟨(mem_children plain).mpr ⟨_, found⟩, (reads_child_iff plain found).mpr admitted⟩

theorem mem_dirsAt (plain : Plain t) :
    n ∈ dirsAt t s dir ↔ t.at? (dir ++ [n]) = some .dir ∧ entersDir s n = true := by
  unfold dirsAt
  rw [List.mem_filter]
  constructor
  · rintro ⟨member, picked⟩
    obtain ⟨m, found⟩ := (mem_children plain).mp member
    obtain ⟨rfl, enters⟩ := (enters_child_iff plain found).mp picked
    exact ⟨found, enters⟩
  · rintro ⟨found, enters⟩
    exact ⟨(mem_children plain).mpr ⟨_, found⟩,
      (enters_child_iff plain found).mpr ⟨rfl, enters⟩⟩

theorem filesAt_sorted (plain : Plain t) : (filesAt t s dir).Pairwise (· < ·) :=
  (children_sorted plain).sublist List.filter_sublist

theorem dirsAt_sorted (plain : Plain t) : (dirsAt t s dir).Pairwise (· < ·) :=
  (children_sorted plain).sublist List.filter_sublist

end Step

section Level

variable {t : Tree} {s : ScanSettings} {dir : List String} {fuel : Nat}
  {below : String → List (List String)}

/-- The paths a level of the walk reads: its files, then the paths below each directory it
enters, behind that directory's name. -/
def levelPaths (t : Tree) (s : ScanSettings) (dir : List String)
    (below : String → List (List String)) : List (List String) :=
  (filesAt t s dir).map (fun n => [n]) ++ (dirsAt t s dir).flatMap fun d => (below d).map (d :: ·)

/-- A directory holding a file below it is a directory the walk meets. -/
theorem dir_of_admitted_cons (plain : Plain t) {d : String} {rest : List String}
    (deeper : rest ≠ []) (admitted : Admitted t s dir (d :: rest)) :
    t.at? (dir ++ [d]) = some .dir := by
  obtain ⟨content, found, -⟩ := admitted.file
  have onTheWay := at?_parents plain found (dir.length + 1) (by
    simpa using List.length_pos_iff.mpr deeper)
  have front : (dir ++ d :: rest).take (dir.length + 1) = dir ++ [d] := by
    rw [List.take_append, List.take_of_length_le (by omega), Nat.add_sub_cancel_left]
    rfl
  rwa [front] at onTheWay

theorem mem_levelPaths (plain : Plain t)
    (memBelow : ∀ d ∈ dirsAt t s dir, ∀ rel, rel ∈ below d ↔
      Admitted t s (dir ++ [d]) rel ∧ rel.length ≤ fuel) (rel : List String) :
    rel ∈ levelPaths t s dir below ↔ Admitted t s dir rel ∧ rel.length ≤ fuel + 1 := by
  unfold levelPaths
  rw [List.mem_append, List.mem_map, List.mem_flatMap]
  cases rel with
  | nil =>
    constructor
    · rintro (⟨n, -, single⟩ | ⟨d, -, deeper⟩)
      · cases single
      · obtain ⟨r, -, same⟩ := List.mem_map.mp deeper
        cases same
    · rintro ⟨admitted, -⟩
      exact absurd rfl admitted.below
  | cons n rest =>
    by_cases single : rest = []
    · -- a path of one name is a file of this level
      subst single
      constructor
      · rintro (⟨m, member, same⟩ | ⟨d, member, deeper⟩)
        · cases same
          exact ⟨(mem_filesAt plain).mp member, by simp⟩
        · obtain ⟨r, inner, same⟩ := List.mem_map.mp deeper
          cases same
          exact absurd rfl (((memBelow n member []).mp inner).1.below)
      · rintro ⟨admitted, -⟩
        exact .inl ⟨n, (mem_filesAt plain).mpr admitted, rfl⟩
    · -- a longer path lies below a directory this level enters
      constructor
      · rintro (⟨m, -, same⟩ | ⟨d, member, deeper⟩)
        · cases same
          exact absurd rfl single
        · obtain ⟨r, inner, same⟩ := List.mem_map.mp deeper
          cases same
          obtain ⟨admitted, short⟩ := (memBelow n member rest).mp inner
          exact ⟨(admitted_cons single).mpr ⟨((mem_dirsAt plain).mp member).2, admitted⟩,
            by simpa using short⟩
      · rintro ⟨admitted, short⟩
        have entered := (mem_dirsAt plain).mpr
          ⟨dir_of_admitted_cons plain single admitted, ((admitted_cons single).mp admitted).1⟩
        refine .inr ⟨n, entered, List.mem_map.mpr ⟨rest, ?_, rfl⟩⟩
        exact (memBelow n entered rest).mpr
          ⟨((admitted_cons single).mp admitted).2, by simpa using short⟩

/-- A level of the walk comes in the walk's order when the walk below each directory does. -/
theorem levelPaths_sorted (plain : Plain t)
    (memBelow : ∀ d ∈ dirsAt t s dir, ∀ rel, rel ∈ below d ↔
      Admitted t s (dir ++ [d]) rel ∧ rel.length ≤ fuel)
    (sortedBelow : ∀ d ∈ dirsAt t s dir, (below d).Pairwise fun p q => walksBefore p q = true) :
    (levelPaths t s dir below).Pairwise fun p q => walksBefore p q = true := by
  -- every path below a directory the level enters has a name after the directory's
  have nonempty : ∀ d ∈ dirsAt t s dir, ∀ r ∈ below d, r ≠ [] :=
    fun d member r inner => ((memBelow d member r).mp inner).1.below
  unfold levelPaths
  rw [List.pairwise_append, List.pairwise_map, List.pairwise_flatMap]
  refine ⟨(filesAt_sorted plain).imp walksBefore_files, ⟨fun d member => ?_, ?_⟩, ?_⟩
  · rw [List.pairwise_map]
    exact (sortedBelow d member).imp fun before => by rwa [walksBefore_cons_self]
  · refine (dirsAt_sorted plain).imp_of_mem ?_
    intro d d' member member' less x inX y inY
    obtain ⟨p, inP, rfl⟩ := List.mem_map.mp inX
    obtain ⟨q, inQ, rfl⟩ := List.mem_map.mp inY
    exact walksBefore_dirs less (nonempty d member p inP) (nonempty d' member' q inQ)
  · -- the files of a level come before everything below its directories
    intro a inA b inB
    obtain ⟨n, inFiles, rfl⟩ := List.mem_map.mp inA
    obtain ⟨d, inDirs, inner⟩ := List.mem_flatMap.mp inB
    obtain ⟨q, inQ, rfl⟩ := List.mem_map.mp inner
    refine walksBefore_file_dir ?_ (nonempty d inDirs q inQ)
    rintro rfl
    obtain ⟨content, isFile, -⟩ := ((mem_filesAt plain).mp inFiles).file
    rw [((mem_dirsAt plain).mp inDirs).1] at isFile
    cases isFile

end Level

/-- Walking a directory with `fuel` levels to go reads the files it admits at most `fuel` levels
below it, each once, in the walk's order, each by the text of its path. -/
theorem walkFiles_admitted {t : Tree} (plain : Plain t) (s : ScanSettings) (fuel : Nat) :
    ∀ dir, t.at? dir = some .dir → ∃ paths : List (List String),
      walkFiles t s fuel (absoluteText dir) dir =
        paths.map (fun rel => absoluteText (dir ++ rel)) ∧
      (∀ rel, rel ∈ paths ↔ Admitted t s dir rel ∧ rel.length ≤ fuel) ∧
      paths.Pairwise fun p q => walksBefore p q = true := by
  induction fuel with
  | zero =>
    intro dir _
    refine ⟨[], rfl, fun rel => ⟨fun member => absurd member List.not_mem_nil, ?_⟩,
      List.Pairwise.nil⟩
    rintro ⟨admitted, short⟩
    exact absurd (List.length_eq_zero_iff.mp (Nat.le_zero.mp short)) admitted.below
  | succ fuel ih =>
    intro dir _
    -- the walk below each directory the level enters, from the induction hypothesis
    have deeper : ∀ d ∈ dirsAt t s dir, ∃ paths : List (List String),
        walkFiles t s fuel (absoluteText (dir ++ [d])) (dir ++ [d]) =
          paths.map (fun rel => absoluteText (dir ++ [d] ++ rel)) ∧
        (∀ rel, rel ∈ paths ↔ Admitted t s (dir ++ [d]) rel ∧ rel.length ≤ fuel) ∧
        paths.Pairwise fun p q => walksBefore p q = true :=
      fun d member => ih (dir ++ [d]) ((mem_dirsAt plain).mp member).1
    choose! below walkBelow memBelow sortedBelow using deeper
    refine ⟨levelPaths t s dir below, ?_, mem_levelPaths plain memBelow,
      levelPaths_sorted plain memBelow sortedBelow⟩
    rw [walkFiles_succ, levelPaths, List.map_append, List.map_map, List.map_flatMap]
    congr 1
    · refine List.map_congr_left fun n member => ?_
      obtain ⟨content, found, -⟩ := ((mem_filesAt plain).mp member).file
      exact joinPath_child plain found
    · refine List.flatMap_congr fun d member => ?_
      have found := ((mem_dirsAt plain).mp member).1
      rw [joinPath_child plain found, isLink_absoluteText plain found, if_neg Bool.false_ne_true,
        walkBelow d member, List.map_map]
      refine List.map_congr_left fun rel _ => ?_
      simp only [Function.comp_apply, List.append_assoc, List.singleton_append]

end Walk

section Scan

theorem name_not_blank (l : Language) : isBlankText l.name = false := by
  cases l <;> decide

theorem fileLanguage_not_blank (given : Option String) (p : String) :
    isBlankText (fileLanguage given p) = false := by
  unfold fileLanguage
  split
  · split <;> exact name_not_blank _
  · exact name_not_blank _

variable {e : Effects} {cwd : List String}

theorem readBytes_ok {p : String} {content : ByteArray}
    (read : e.tree.read cwd p = .ok (some content)) :
    (readBytes cwd p).run.run e = (.ok (.ok content), e) := by
  unfold readBytes
  rw [cli_bind_eq, run_get]
  dsimp only
  rw [read]
  rfl

/-- A file that can be read is scanned: under the name given, in the language given or its
path's, and with the files left as they were. -/
theorem scanFile_reads (given : Option String) (name : String) {p : String}
    {content : ByteArray}
    (read : e.tree.read cwd p = .ok (some content)) :
    ∃ f e', (scanFile cwd given p name).run.run e = (.ok (some f), e') ∧ f.fileName = name ∧
      f.language = fileLanguage given p ∧ e'.tree = e.tree := by
  -- a language name is never blank, so the scan itself always returns
  have scanned : ∀ text, Scan.run text (fileLanguage given p) name =
      .ok (Scan.detect text (fileLanguage given p) name) := fun text => by
    rw [Scan.run, if_neg (by simp [fileLanguage_not_blank])]
  unfold scanFile
  rw [cli_bind_eq, readBytes_ok read]
  dsimp only
  simp only [scanned]
  exact ⟨_, _, rfl, rfl, rfl, rfl⟩

/-- One file of a directory scan: it is added to the scan when it could be read, and counted as
passed over otherwise. -/
def scanStep (cwd : List String) (given : Option String) (r : ScanRun) (p : String) :
    CliM ScanRun := do
  match ← scanFile cwd given p p with
  | some f => pure { r with files := r.files ++ [f] }
  | none => pure { r with skipped := r.skipped + 1 }

/-- A directory scan folds its step over the files the walk of its real directory names. -/
theorem scanDirectory_eq (given : Option String) (s : ScanSettings) (path : String) :
    (scanDirectory cwd given s path).run.run e =
      ((walkFiles e.tree s (e.tree.nodes.length + 1) (absoluteText (e.tree.realPath cwd path))
        (e.tree.realPath cwd path)).foldlM (scanStep cwd given)
        { directory := absoluteText (e.tree.realPath cwd path), files := [] }).run.run e := by
  unfold scanDirectory
  rw [cli_bind_eq, run_get]
  rfl

/-- Scanning files that can all be read adds each of them, in order, and passes none over. -/
theorem foldlM_scanStep (given : Option String) :
    ∀ (paths : List String) (r : ScanRun) (e : Effects),
    (∀ p ∈ paths, ∃ content, e.tree.read cwd p = .ok (some content)) →
    ∃ r' e', ((paths.foldlM (scanStep cwd given) r).run.run e = (.ok r', e')) ∧
      r'.directory = r.directory ∧ r'.skipped = r.skipped ∧
      r'.files.map (·.fileName) = r.files.map (·.fileName) ++ paths ∧
      (∀ f ∈ r'.files, f ∈ r.files ∨ f.language = fileLanguage given f.fileName) ∧
      e'.tree = e.tree := by
  intro paths
  induction paths with
  | nil =>
    intro r e _
    exact ⟨r, e, rfl, rfl, rfl, by simp, fun f member => .inl member, rfl⟩
  | cons p rest ih =>
    intro r e readable
    obtain ⟨content, read⟩ := readable p List.mem_cons_self
    obtain ⟨f, e₁, scanned, named, language, sameTree⟩ := scanFile_reads given p read
    have first :
        (scanStep cwd given r p).run.run e = (.ok { r with files := r.files ++ [f] }, e₁) := by
      unfold scanStep
      rw [cli_bind_eq, scanned]
      rfl
    have later : ∀ q ∈ rest, ∃ content, e₁.tree.read cwd q = .ok (some content) := by
      rw [sameTree]
      exact fun q member => readable q (List.mem_cons_of_mem p member)
    obtain ⟨r', e', ran, directory, skipped, names, languages, tree⟩ :=
      ih { r with files := r.files ++ [f] } e₁ later
    refine ⟨r', e', ?_, directory, skipped, ?_, ?_, tree.trans sameTree⟩
    · rw [List.foldlM_cons, cli_bind_eq, first]
      exact ran
    · rw [names, List.map_append, List.map_singleton, named, List.append_assoc]
      rfl
    · intro g member
      rcases languages g member with older | given'
      · rcases List.mem_append.mp older with old | new
        · exact .inl old
        · rw [List.mem_singleton.mp new]
          exact .inr (by rw [language, named])
      · exact .inr given'

/-- The language a file is scanned in is the language given, normalized, unless none or an empty
one is given, and otherwise the one its path names. -/
theorem fileLanguage_eq (given : Option String) (p : String) :
    fileLanguage given p = ((given.filter fun l => !l.isEmpty).map fun l =>
      (Language.normalize l).name).getD (Language.ofPath p).name := by
  cases given with
  | none => rw [fileLanguage, Option.filter_none, Option.map_none, Option.getD_none]
  | some l =>
    rw [fileLanguage, Option.filter_some]
    by_cases empty : l.isEmpty = true
    · rw [if_pos empty, if_neg (by simp [empty]), Option.map_none, Option.getD_none]
    · rw [if_neg empty, if_pos (by simpa using empty), Option.map_some, Option.getD_some]

/-- A directory scan of a tree of directories and readable files reads exactly the files it
admits below the directory, each once and in the walk's order (each directory's files by name,
then its subdirectories by name, each in turn), reports each by the text of its real path, passes
none over, and scans each in the language given or else the one its path names. -/
theorem scanDirectory_admitted (e : Effects) (cwd : List String) (given : Option String)
    (s : ScanSettings) (path : String) (plain : Plain e.tree)
    (isDir : e.tree.at? (e.tree.realPath cwd path) = some .dir) :
    ∃ (paths : List (List String)) (r : ScanRun) (e' : Effects),
      (scanDirectory cwd given s path).run.run e = (.ok r, e') ∧
      r.directory = absoluteText (e.tree.realPath cwd path) ∧
      (∀ rel, rel ∈ paths ↔ Admitted e.tree s (e.tree.realPath cwd path) rel) ∧
      paths.Pairwise (fun p q => walksBefore p q = true) ∧
      r.files.map (·.fileName) =
        paths.map (fun rel => absoluteText (e.tree.realPath cwd path ++ rel)) ∧
      r.skipped = 0 ∧
      ∀ f ∈ r.files, f.language = ((given.filter fun l => !l.isEmpty).map fun l =>
        (Language.normalize l).name).getD (Language.ofPath f.fileName).name := by
  obtain ⟨paths, walked, members, sorted⟩ :=
    walkFiles_admitted plain s (e.tree.nodes.length + 1) _ isDir
  -- every file the walk names can be read
  have readable : ∀ p ∈ walkFiles e.tree s (e.tree.nodes.length + 1)
      (absoluteText (e.tree.realPath cwd path)) (e.tree.realPath cwd path),
      ∃ content, e.tree.read cwd p = .ok (some content) := by
    rw [walked]
    intro p member
    obtain ⟨rel, inPaths, rfl⟩ := List.mem_map.mp member
    obtain ⟨content, found, -⟩ := ((members rel).mp inPaths).1.file
    exact ⟨content, read_absoluteText plain found cwd⟩
  obtain ⟨r, e', ran, directory, skipped, names, languages, -⟩ :=
    foldlM_scanStep given _ _ e readable
  refine ⟨paths, r, e', by rw [scanDirectory_eq]; exact ran, directory, fun rel => ?_, sorted,
    ?_, skipped, ?_⟩
  · -- the fuel covers every file: a path of a tree is no longer than its list of nodes
    rw [members rel]
    constructor
    · exact fun admitted => admitted.1
    · intro admitted
      obtain ⟨content, found, -⟩ := admitted.file
      have deep := length_le_nodes plain found
      rw [List.length_append] at deep
      exact ⟨admitted, by omega⟩
  · rw [names, walked]
    rfl
  · intro f member
    rcases languages f member with old | given'
    · cases old
    · rw [given', fileLanguage_eq]

/-- A source directory holding a file, a library directory and a directory of installed
packages. -/
def sampleTree : Tree :=
  { nodes := [(["src"], .dir), (["src", "app.py"], .file ⟨#[120]⟩), (["src", "lib"], .dir),
      (["src", "lib", "util.js"], .file ⟨#[]⟩), (["src", "node_modules"], .dir),
      (["src", "node_modules", "dep.js"], .file ⟨#[]⟩)] }

theorem scan_sampleTree :
    Plain sampleTree ∧ sampleTree.at? (sampleTree.realPath [] "/src") = some .dir ∧
    ∃ (paths : List (List String)) (r : ScanRun) (e' : Effects),
      (scanDirectory [] none {} "/src").run.run { tree := sampleTree } = (.ok r, e') ∧
      r.directory = absoluteText (sampleTree.realPath [] "/src") ∧
      (∀ rel, rel ∈ paths ↔ Admitted sampleTree {} (sampleTree.realPath [] "/src") rel) ∧
      paths.Pairwise (fun p q => walksBefore p q = true) ∧
      r.files.map (·.fileName) =
        paths.map (fun rel => absoluteText (sampleTree.realPath [] "/src" ++ rel)) ∧
      r.skipped = 0 ∧
      ∀ f ∈ r.files, f.language = ((none.filter fun l : String => !l.isEmpty).map fun l =>
        (Language.normalize l).name).getD (Language.ofPath f.fileName).name := by
  have plain : Plain sampleTree := ⟨by decide, by decide, by decide, by decide⟩
  have isDir : sampleTree.at? (sampleTree.realPath [] "/src") = some .dir := by cbv
  exact ⟨plain, isDir,
    scanDirectory_admitted { tree := sampleTree } [] none {} "/src" plain isDir⟩

end Scan

end SecScan.Proofs.DirectoryWalk

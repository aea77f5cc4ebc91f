import DumpDigest.Proofs.Files.Changes
import DumpDigest.Proofs.Text.Front

/-!
# The parent of a path

The parent of a path is cut off its text, while files are found by walking along its parts.  That
the two agree is `isDirectory_of_parent`: where a way leads to a directory and one more name follows
it, the parent of the path is that directory.  It goes by the parts of a text that is read from its
end (`Path.pieces_trimEnd`); what is dropped there are slashes and single dots, which lead nowhere.

For the same reason a path leads where its names lead, along which missing directories are made.  If
one of them cannot be made then the path is not that of a directory afterwards,
`isDirectory_of_ensureDirectory`.
-/

namespace DumpDigest

open Result

/-! ### The parts of a text -/

namespace Path

/-- What stands between the slashes of a text, without what is empty. -/
def pieces (text : List Char) : List (List Char) :=
  (text.splitOn '/').filter (· ≠ [])

theorem parts_eq_pieces (path : Path) : path.parts = (pieces path.text.toList).map String.ofList :=
  rfl

theorem pieces_slash (before behind : List Char) :
    pieces (before ++ '/' :: behind) = pieces before ++ pieces behind := by
  have split : (before ++ '/' :: behind).splitOn '/' =
      before.splitOn '/' ++ behind.splitOn '/' := by
    simp only [List.splitOn_eq_splitOnP]
    exact List.splitOnP_append_cons before behind (beq_self_eq_true '/')
  rw [pieces, split, List.filter_append, pieces, pieces]

theorem pieces_nil : pieces [] = [] := by
  rw [pieces, List.splitOn_nil]
  rfl

theorem pieces_name {name : List Char} (noSlash : '/' ∉ name) (nonempty : name ≠ []) :
    pieces name = [name] := by
  have whole : name.splitOn '/' = [name] := by
    have split : (['/'].intercalate [name]).splitOn '/' = [name] :=
      List.splitOn_intercalate '/' (by simpa using noSlash) (by simp)
    rwa [List.intercalate_singleton] at split
  rw [pieces, whole, List.filter_singleton, decide_eq_true nonempty]
  rfl

/-- A slash and a dot at the end of a text are one piece more. -/
theorem pieces_reverse_dot (reversed : List Char) :
    pieces ('.' :: '/' :: reversed).reverse = pieces reversed.reverse ++ [['.']] := by
  have text : ('.' :: '/' :: reversed).reverse = reversed.reverse ++ '/' :: ['.'] := by
    simp
  have dot : pieces ['.'] = [['.']] := pieces_name (by decide) (by decide)
  rw [text, pieces_slash, dot]

/-- **What is cut off the end of a text has no parts but single dots.** -/
theorem pieces_trimEnd (reversed : List Char) :
    ∃ dots, pieces reversed.reverse =
      pieces (trimEnd reversed).reverse ++ List.replicate dots ['.'] := by
  fun_induction trimEnd reversed with
  | case1 rest ends => exact ⟨0, by simp⟩
  | case2 rest more ih =>
    obtain ⟨dots, is⟩ := ih
    refine ⟨dots, ?_⟩
    rw [List.reverse_cons, pieces_slash, pieces_nil, List.append_nil, is]
  | case3 rest ends =>
    obtain rfl : rest = [] := List.isEmpty_iff.mp ends
    exact ⟨1, by decide⟩
  | case4 rest more ih =>
    obtain ⟨dots, is⟩ := ih
    refine ⟨dots + 1, ?_⟩
    rw [pieces_reverse_dot, is, List.append_assoc, List.replicate_succ']
  | case5 => exact ⟨0, by simp⟩

theorem trimEnd_suffix (reversed : List Char) : trimEnd reversed <:+ reversed := by
  fun_induction trimEnd reversed with
  | case1 rest ends => exact List.suffix_rfl
  | case2 rest more ih => exact ih.trans (List.suffix_cons _ _)
  | case3 rest ends =>
    obtain rfl : rest = [] := List.isEmpty_iff.mp ends
    exact List.suffix_cons _ _
  | case4 rest more ih => exact (ih.trans (List.suffix_cons _ _)).trans (List.suffix_cons _ _)
  | case5 => exact List.suffix_rfl

/-- A text that ends neither in a slash nor in a slash and a dot is left as it is. -/
theorem trimEnd_eq_self {reversed : List Char} (noSlash : reversed.head? ≠ some '/')
    (noDot : ∀ rest, reversed ≠ '.' :: '/' :: rest) : trimEnd reversed = reversed := by
  unfold trimEnd
  split
  · exact absurd rfl noSlash
  · exact absurd rfl (noDot _)
  · rfl

/-- A text is something that ends in a slash, if it is not empty, and what follows the last
slash. -/
structure LastSlash (text front name : List Char) : Prop where
  split : text = front ++ name
  noSlash : '/' ∉ name
  ends : front = [] ∨ ∃ before, front = before ++ ['/']

theorem exists_lastSlash (text : List Char) : ∃ front name, LastSlash text front name := by
  by_cases slash : '/' ∈ text.reverse
  · obtain ⟨name, front, split, noSlash⟩ := List.eq_append_cons_of_mem slash
    refine ⟨front.reverse ++ ['/'], name.reverse, ?_, by simpa using noSlash, .inr ⟨_, rfl⟩⟩
    rw [← List.reverse_reverse text, split]
    simp
  · exact ⟨[], text, rfl, fun member => slash (List.mem_reverse.mpr member), .inl rfl⟩

section LastSlash

variable {text front name : List Char}

theorem LastSlash.pieces_eq (h : LastSlash text front name) :
    pieces text = pieces front ++ pieces name := by
  rw [h.split]
  rcases h.ends with rfl | ⟨before, rfl⟩
  · rw [pieces_nil]
    rfl
  · rw [List.append_assoc, List.singleton_append, pieces_slash, pieces_slash, pieces_nil,
      List.append_nil]

/-- What is left of a text read from its end behind the last slash. -/
theorem LastSlash.dropWhile_eq (h : LastSlash text front name) :
    text.reverse.dropWhile (· ≠ '/') = front.reverse := by
  have apart : ∀ c ∈ name.reverse, decide (c ≠ '/') = true :=
    Text.differs_of_not_mem fun member => h.noSlash (List.mem_reverse.mp member)
  rw [h.split, List.reverse_append, List.dropWhile_append_of_pos apart]
  rcases h.ends with rfl | ⟨before, rfl⟩
  · rfl
  · rw [List.reverse_append, List.reverse_singleton, List.singleton_append,
      List.dropWhile_cons_of_neg (by simp)]

theorem LastSlash.trimEnd_eq (h : LastSlash text front name) (nonempty : name ≠ [])
    (noDot : name ≠ ['.']) : trimEnd text.reverse = text.reverse := by
  obtain ⟨c, more, is⟩ := List.exists_cons_of_ne_nil (List.reverse_ne_nil_iff.mpr nonempty)
  have noSlash : '/' ∉ c :: more := by
    rw [← is, List.mem_reverse]
    exact h.noSlash
  rw [h.split, List.reverse_append, is]
  refine trimEnd_eq_self ?_ fun rest slash => ?_
  · rintro ⟨⟩
    exact noSlash List.mem_cons_self
  · cases more with
    | nil =>
      obtain ⟨rfl, -⟩ := List.cons.inj slash
      exact noDot (List.reverse_eq_iff.mp is)
    | cons d more =>
      obtain ⟨-, behind⟩ := List.cons.inj slash
      obtain ⟨rfl, -⟩ := List.cons.inj behind
      exact noSlash (List.mem_cons_of_mem _ List.mem_cons_self)

end LastSlash

/-- The parent of a path that ends in a name is what stands in front of the name, with its end cut
off. -/
theorem text_of_parent {path parent : Path} {front name : List Char}
    (h : LastSlash path.text.toList front name) (nonempty : name ≠ []) (noDot : name ≠ ['.'])
    (parentOf : path.parent? = some parent) :
    parent.text.toList = (trimEnd front.reverse).reverse := by
  unfold parent? at parentOf
  split at parentOf
  · cases parentOf
  · obtain rfl := Option.some.inj parentOf
    rw [h.trimEnd_eq nonempty noDot, h.dropWhile_eq, String.toList_ofList]

theorem parts_of_lastSlash {path : Path} {front name : List Char}
    (h : LastSlash path.text.toList front name) (noSlash : ¬ path.endsInSlash = true)
    (nonempty : path.parts ≠ []) :
    name ≠ [] ∧ path.parts = (pieces front).map String.ofList ++ [String.ofList name] := by
  have ends : name ≠ [] := by
    rintro rfl
    have whole : path.text.toList = front := h.split.trans (List.append_nil front)
    rcases h.ends with rfl | ⟨before, rfl⟩
    · rw [parts_eq_pieces, whole, pieces_nil] at nonempty
      exact nonempty rfl
    · rw [endsInSlash, whole] at noSlash
      exact noSlash (by simp)
  refine ⟨ends, ?_⟩
  rw [parts_eq_pieces, h.pieces_eq, pieces_name h.noSlash ends, List.map_append, List.map_singleton]

/-- **The parent of a path has its parts but the last**, up to single dots, and is a part of its
text. -/
theorem parts_of_parent {path parent : Path} {before : List String} {last : String}
    (parts : path.parts = before ++ [last]) (noDot : last ≠ ".")
    (noSlash : ¬ path.endsInSlash = true) (parentOf : path.parent? = some parent) :
    (∃ dots, before = parent.parts ++ List.replicate dots ".") ∧
      parent.text.toList <+: path.text.toList := by
  obtain ⟨front, name, h⟩ := exists_lastSlash path.text.toList
  obtain ⟨nonempty, parts'⟩ := parts_of_lastSlash h noSlash (by simp [parts])
  obtain ⟨rfl, same⟩ := List.append_inj' (parts.symm.trans parts') rfl
  obtain rfl := List.singleton_inj.mp same
  have noDot' : name ≠ ['.'] := by
    rintro rfl
    exact noDot rfl
  have text := text_of_parent h nonempty noDot' parentOf
  constructor
  · obtain ⟨dots, is⟩ := pieces_trimEnd front.reverse
    refine ⟨dots, ?_⟩
    rw [List.reverse_reverse, ← text] at is
    rw [is, List.map_append, List.map_replicate, parts_eq_pieces]
  · have cut := List.reverse_prefix.mpr (trimEnd_suffix front.reverse)
    rw [← text, List.reverse_reverse] at cut
    exact cut.trans (h.split ▸ List.prefix_append front name)

theorem requireWellFormed_eq_ok_iff {path : Path} :
    path.requireWellFormed = .ok () ↔
      '\x00' ∉ path.text.toList ∧ path.text.utf8ByteSize ≤ pathLimit := by
  unfold requireWellFormed
  by_cases null : '\x00' ∈ path.text.toList
  · rw [if_pos (List.contains_iff_mem.mpr null)]
    exact iff_of_false (by rintro ⟨⟩) fun h => h.1 null
  rw [if_neg fun h => null (List.contains_iff_mem.mp h)]
  by_cases long : pathLimit < path.text.utf8ByteSize
  · rw [if_pos long]
    exact iff_of_false (by rintro ⟨⟩) fun h => Nat.not_le.mpr long h.2
  · rw [if_neg long]
    exact iff_of_true rfl ⟨null, Nat.not_lt.mp long⟩

/-- **The start of a path that can be asked for can be asked for.** -/
theorem requireWellFormed_of_prefix {path parent : Path}
    (part : parent.text.toList <+: path.text.toList)
    (wellFormed : path.requireWellFormed = .ok ()) : parent.requireWellFormed = .ok () := by
  obtain ⟨noNull, short⟩ := requireWellFormed_eq_ok_iff.mp wellFormed
  obtain ⟨rest, split⟩ := part
  have text : path.text = parent.text ++ String.ofList rest := by
    rw [← String.toList_inj, String.toList_append, String.toList_ofList, split]
  refine requireWellFormed_eq_ok_iff.mpr ⟨fun null => noNull ?_, le_trans ?_ short⟩
  · rw [← split]
    exact List.mem_append_left rest null
  · rw [text, String.utf8ByteSize_append]
    exact Nat.le_add_right _ _

theorem isAbsolute_of_prefix {path parent : Path} (part : parent.text.toList <+: path.text.toList)
    (nonempty : parent.text ≠ "") : parent.isAbsolute = path.isAbsolute := by
  obtain ⟨rest, split⟩ := part
  have some : parent.text.toList ≠ [] := fun none => nonempty (String.toList_eq_nil_iff.mp none)
  rw [isAbsolute, isAbsolute, ← split, List.head?_append_of_ne_nil _ some]

end Path

namespace FileTree

/-! ### Single dots -/

theorem Leads.inside {tree : FileTree} {place next : Location} {name : String}
    (h : Leads tree place name next) : tree.entry? place = some .directory := by
  cases h with
  | stay inside => exact inside
  | back inside => exact inside
  | down inside => exact inside

theorem Leads.dot {tree : FileTree} {place next : Location} (h : Leads tree place "." next) :
    next = place := by
  generalize named : "." = name at h
  cases h with
  | stay => rfl
  | back => exact absurd named (by decide)
  | down _ noDot => exact absurd named.symm noDot

theorem walk_of_dots {tree : FileTree} {start place : Location} {names : List String} {dots : Nat}
    (way : tree.walk start (names ++ List.replicate dots ".") = .ok place) :
    tree.walk start names = .ok place := by
  induction dots with
  | zero => rwa [List.replicate_zero, List.append_nil] at way
  | succ dots ih =>
    rw [List.replicate_succ', ← List.append_assoc] at way
    obtain ⟨next, way, last⟩ := walk_concat_eq_ok_iff.mp way
    obtain rfl := last.dot
    exact ih way

theorem walk_without_dots {tree : FileTree} {start place : Location} {names : List String}
    (way : tree.walk start names = .ok place) :
    tree.walk start (names.filter (· ≠ ".")) = .ok place := by
  induction names using List.reverseRecOn generalizing place with
  | nil => exact way
  | append_singleton before name ih =>
    obtain ⟨between, way, last⟩ := walk_concat_eq_ok_iff.mp way
    rw [List.filter_append]
    by_cases dot : name = "."
    · subst dot
      obtain rfl := last.dot
      simpa using ih way
    · rw [List.filter_singleton, decide_eq_true dot]
      exact walk_concat_eq_ok_iff.mpr ⟨between, ih way, last⟩

/-- **A path leads where its names lead.** -/
theorem walk_names {tree : FileTree} {path : Path} {start place : Location}
    (way : tree.walk start path.parts = .ok place) : tree.walk start path.names = .ok place := by
  have without := walk_without_dots way
  rw [Path.names]
  split
  · next first =>
    obtain ⟨-, first⟩ := Bool.and_eq_true_iff.mp first
    obtain ⟨rest, parts⟩ := List.head?_eq_some_iff.mp (of_decide_eq_true first)
    rw [parts, ← List.singleton_append, walk_append] at way
    obtain ⟨next, step, -⟩ := bind_eq_ok_iff.mp way
    have dots : tree.walk start ([] ++ List.replicate 1 ".") = .ok next := step
    obtain rfl := Except.ok.inj (walk_of_dots dots)
    rw [walk_append]
    exact bind_eq_ok_iff.mpr ⟨_, step, without⟩
  · exact without

/-! ### Paths of directories -/

theorem leadToDirectory_of_isDirectory {tree : FileTree} {path : Path}
    (directory : tree.isDirectory path = true) :
    tree.leadToDirectory (tree.start path) path.names = true := by
  obtain ⟨place, leads, inside⟩ := isDirectory_iff.mp directory
  obtain ⟨-, -, way, -⟩ := locate_eq_ok_iff.mp leads
  exact leadToDirectory_iff.mpr ⟨place, walk_names way, inside⟩

/-- **Where a way leads to a directory and one more name follows it, the parent of the path is that
directory.** -/
theorem isDirectory_of_parent {tree : FileTree} {path parent : Path} {before : List String}
    {last : String} {place : Location} (wellFormed : path.requireWellFormed = .ok ())
    (parts : path.parts = before ++ [last]) (noDot : last ≠ ".")
    (noSlash : ¬ path.endsInSlash = true) (parentOf : path.parent? = some parent)
    (named : parent.text ≠ "") (way : tree.walk (tree.start path) before = .ok place)
    (inside : tree.entry? place = some .directory) : tree.isDirectory parent = true := by
  obtain ⟨⟨dots, rfl⟩, part⟩ := Path.parts_of_parent parts noDot noSlash parentOf
  have wellFormed' := Path.requireWellFormed_of_prefix part wellFormed
  have way' : tree.walk (tree.start parent) parent.parts = .ok place := by
    rw [start, Path.isAbsolute_of_prefix part named]
    exact walk_of_dots way
  exact isDirectory_iff.mpr
    ⟨place, locate_eq_ok_iff.mpr ⟨wellFormed', named, way', fun _ => inside⟩, inside⟩

/-! ### Directories that cannot be made -/

theorem leadToDirectory_of_concat {tree : FileTree} {start : Location} {before : List String}
    {name : String} (leads : tree.leadToDirectory start (before ++ [name]) = true) :
    tree.leadToDirectory start before = true := by
  obtain ⟨place, way, -⟩ := leadToDirectory_iff.mp leads
  obtain ⟨between, way, last⟩ := walk_concat_eq_ok_iff.mp way
  exact leadToDirectory_iff.mpr ⟨between, way, last.inside⟩

/-- All of a way that leads to a directory leads through directories. -/
theorem leadToDirectory_of_prefix {tree : FileTree} {start : Location} {leading names : List String}
    (part : leading <+: names) (leads : tree.leadToDirectory start names = true) :
    tree.leadToDirectory start leading = true := by
  obtain ⟨more, rfl⟩ := part
  induction more using List.reverseRecOn with
  | nil => rwa [List.append_nil] at leads
  | append_singleton more name ih =>
    rw [← List.append_assoc] at leads
    exact ih (leadToDirectory_of_concat leads)

/-- **Where directories cannot be made, the names lead to no directory.** -/
theorem leadToDirectory_of_makeDirectories {start : Location} {reversed : List String}
    {tree made : FileTree} {reason : FileError}
    (failed : makeDirectories start reversed tree = (made, .error reason)) :
    made.leadToDirectory start reversed.reverse = false := by
  induction reversed generalizing tree made reason with
  | nil => cases failed
  | cons last before ih =>
    have settled : ∀ {tree : FileTree} {because : FileError},
        (tree, if tree.leadToDirectory start (before.reverse ++ [last]) then Except.ok ()
          else Except.error because) = (made, Except.error reason) →
        made.leadToDirectory start (before.reverse ++ [last]) = false := by
      intro tree because is
      obtain ⟨rfl, is⟩ := Prod.mk.inj is
      split at is
      · cases is
      · next outside => exact Bool.eq_false_iff.mpr outside
    -- the attempt fails on the way, or at its end with the names still leading to no directory
    rw [List.reverse_cons]
    unfold makeDirectories at failed
    dsimp only at failed
    split at failed
    · cases failed
    · split at failed
      · next recursive =>
        obtain ⟨rfl, -⟩ := Prod.mk.inj failed
        exact Bool.eq_false_iff.mpr fun leads =>
          Bool.eq_false_iff.mp (ih recursive) (leadToDirectory_of_concat leads)
      · split at failed
        · cases failed
        · exact settled failed
    · exact settled failed

/-- **A directory that cannot be made is not there afterwards.** -/
theorem isDirectory_of_ensureDirectory {tree made : FileTree} {path : Path} {reason : FileError}
    (failed : tree.ensureDirectory path = (made, .error reason)) :
    made.isDirectory path = false := by
  refine Bool.eq_false_iff.mpr fun directory => ?_
  have leads := leadToDirectory_of_isDirectory directory
  obtain ⟨place, located, -⟩ := isDirectory_iff.mp directory
  obtain ⟨wellFormed, -⟩ := locate_eq_ok_iff.mp located
  have grows := (ensureDirectory_adds tree path).grows
  rw [failed] at grows
  rw [ensureDirectory, wellFormed] at failed
  have outside := leadToDirectory_of_makeDirectories failed
  rw [List.reverse_reverse] at outside
  rw [start, grows.workingDirectory] at leads
  cases leads.symm.trans outside

end FileTree

end DumpDigest

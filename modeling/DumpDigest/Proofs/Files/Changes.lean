import DumpDigest.Files.Tree
import DumpDigest.Proofs.Result
import DumpDigest.Proofs.SortedMap.Lookup
import Mathlib.Data.List.Induction

/-!
# What file operations change

Making directories and writing a file store entries, and what they store is known place by place.
`makeDirectories_adds` says that only directories are added and only on the way that the names
lead; `write_eq_ok` that one file is stored, which is what the path then leads to.

Both rest on `Grows`: the operations keep all entries and turn no directory into a file, so that a
way that leads somewhere before leads there afterwards, `Grows.walk`.
-/

namespace DumpDigest

open Result

namespace FileTree

/-! ### Entries -/

theorem entry?_put (tree : FileTree) {place : Location} (below : place ≠ []) (entry : Entry)
    (other : Location) :
    FileTree.entry? (tree.put place entry) other =
      if other = place then some entry else tree.entry? other := by
  by_cases root : other = []
  · subst root
    rw [if_neg (Ne.symm below)]
    rfl
  · rw [ FileTree.entry?, if_neg root, put, SortedMap.find?_insert, FileTree.entry?, if_neg root]
    by_cases here : other = place
    · rw [if_pos (Std.compare_eq_iff_eq.mpr here), if_pos here]
    · rw [if_neg fun same => here (Std.compare_eq_iff_eq.mp same), if_neg here]

theorem requireDirectory_eq_ok_iff {tree : FileTree} {place : Location} {result : Unit} :
    tree.requireDirectory place = .ok result ↔ tree.entry? place = some .directory := by
  rw [requireDirectory]
  cases tree.entry? place with
  | none => simp
  | some entry => cases entry <;> simp

theorem child?_eq_ok_iff {tree : FileTree} {place : Location} {name : String}
    {entry : Option Entry} :
    tree.child? place name = .ok entry ↔
      name.utf8ByteSize ≤ nameLimit ∧ tree.entry? (place ++ [name]) = entry := by
  rw [child?]
  split
  · next long => simp [Nat.not_le.mpr long]
  · next short => simp [Nat.not_lt.mp short]

/-! ### Ways -/

/-- Where a name leads from a directory. -/
inductive Leads (tree : FileTree) (place : Location) : String → Location → Prop
  | stay (inside : tree.entry? place = some .directory) : Leads tree place "." place
  | back (inside : tree.entry? place = some .directory) : Leads tree place ".." place.dropLast
  | down {name : String} {entry : Entry} (inside : tree.entry? place = some .directory)
      (noDot : name ≠ ".") (noDots : name ≠ "..") (short : name.utf8ByteSize ≤ nameLimit)
      (there : tree.entry? (place ++ [name]) = some entry) : Leads tree place name (place ++ [name])

theorem step_eq_ok_iff {tree : FileTree} {place next : Location} {name : String} :
    tree.step place name = .ok next ↔ Leads tree place name next := by
  constructor
  · intro h
    obtain ⟨_, directory, named⟩ := bind_eq_ok_iff.mp h
    have inside := requireDirectory_eq_ok_iff.mp directory
    by_cases dot : name = "."
    · rw [if_pos dot] at named
      obtain rfl := Except.ok.inj named
      exact dot ▸ .stay inside
    by_cases dots : name = ".."
    · rw [if_neg dot, if_pos dots] at named
      obtain rfl := Except.ok.inj named
      exact dots ▸ .back inside
    · rw [if_neg dot, if_neg dots] at named
      obtain ⟨child, found, named⟩ := bind_eq_ok_iff.mp named
      obtain ⟨short, there⟩ := child?_eq_ok_iff.mp found
      cases child with
      | some entry =>
        obtain rfl := Except.ok.inj named
        exact .down inside dot dots short there
      | none => cases named
  · intro h
    cases h with
    | stay inside => exact bind_eq_ok_iff.mpr ⟨(), requireDirectory_eq_ok_iff.mpr inside, rfl⟩
    | back inside => exact bind_eq_ok_iff.mpr ⟨(), requireDirectory_eq_ok_iff.mpr inside, rfl⟩
    | down inside noDot noDots short there =>
      refine bind_eq_ok_iff.mpr ⟨(), requireDirectory_eq_ok_iff.mpr inside, ?_⟩
      rw [if_neg noDot, if_neg noDots]
      exact bind_eq_ok_iff.mpr ⟨_, child?_eq_ok_iff.mpr ⟨short, there⟩, rfl⟩

theorem walk_append (tree : FileTree) (start : Location) (before behind : List String) :
    tree.walk start (before ++ behind) =
      tree.walk start before >>= fun place => tree.walk place behind := by
  rw [walk, List.foldlM_append]
  rfl

theorem walk_concat_eq_ok_iff {tree : FileTree} {start next : Location} {before : List String}
    {name : String} :
    tree.walk start (before ++ [name]) = .ok next ↔
      ∃ place, tree.walk start before = .ok place ∧ Leads tree place name next := by
  rw [walk_append, bind_eq_ok_iff]
  simp only [walk, List.foldlM_cons, List.foldlM_nil, bind_pure, step_eq_ok_iff]

/-- A path leads where its parts lead; what a slash at its end asks for has to be there. -/
theorem locate_eq_ok_iff {tree : FileTree} {path : Path} {place : Location} :
    tree.locate path = .ok place ↔
      path.requireWellFormed = .ok () ∧ path.text ≠ "" ∧
        tree.walk (tree.start path) path.parts = .ok place ∧
        (path.endsInSlash = true → tree.entry? place = some .directory) := by
  constructor
  · intro h
    obtain ⟨_, wellFormed, rest⟩ := bind_eq_ok_iff.mp h
    dsimp only at rest
    split at rest
    · cases rest
    next nonempty =>
    obtain ⟨place', way, rest⟩ := bind_eq_ok_iff.mp rest
    refine ⟨wellFormed, fun empty => nonempty (String.isEmpty_iff.mpr empty), ?_⟩
    split at rest
    · obtain ⟨_, directory, rest⟩ := bind_eq_ok_iff.mp rest
      obtain rfl := Except.ok.inj rest
      exact ⟨way, fun _ => requireDirectory_eq_ok_iff.mp directory⟩
    · next noSlash =>
      obtain rfl := Except.ok.inj rest
      exact ⟨way, fun slash => absurd slash noSlash⟩
  · rintro ⟨wellFormed, nonempty, way, slashed⟩
    refine bind_eq_ok_iff.mpr ⟨(), wellFormed, ?_⟩
    dsimp only
    rw [if_neg fun empty => nonempty (String.isEmpty_iff.mp empty)]
    refine bind_eq_ok_iff.mpr ⟨place, way, ?_⟩
    split
    · next slash =>
      exact bind_eq_ok_iff.mpr ⟨(), requireDirectory_eq_ok_iff.mpr (slashed slash), rfl⟩
    · rfl

theorem isDirectory_iff {tree : FileTree} {path : Path} :
    tree.isDirectory path = true ↔
      ∃ place, tree.locate path = .ok place ∧ tree.entry? place = some .directory := by
  rw [isDirectory, at?]
  cases tree.locate path with
  | error reason => simp
  | ok place =>
    cases is : tree.entry? place with
    | none => simp [is]
    | some entry => cases entry <;> simp [is, Entry.isDirectory]

theorem leadToDirectory_iff {tree : FileTree} {start : Location} {names : List String} :
    tree.leadToDirectory start names = true ↔
      ∃ place, tree.walk start names = .ok place ∧ tree.entry? place = some .directory := by
  rw [leadToDirectory]
  cases tree.walk start names with
  | error reason => simp
  | ok place =>
    cases is : tree.entry? place with
    | none => simp [is]
    | some entry => cases entry <;> simp [is, Entry.isDirectory]

/-! ### Growing trees -/

/-- A tree has all entries of another one, and they are files or directories as there. -/
structure Grows (before after : FileTree) : Prop where
  workingDirectory : after.workingDirectory = before.workingDirectory
  kept : ∀ place entry, before.entry? place = some entry →
    ∃ other, after.entry? place = some other ∧ other.isDirectory = entry.isDirectory

namespace Grows

variable {first second third : FileTree} {place : Location}

theorem refl (tree : FileTree) : Grows tree tree :=
  ⟨rfl, fun _ entry there => ⟨entry, there, rfl⟩⟩

theorem trans (here : Grows first second) (there : Grows second third) : Grows first third := by
  refine ⟨there.workingDirectory.trans here.workingDirectory, fun place entry old => ?_⟩
  obtain ⟨other, between, same⟩ := here.kept place entry old
  obtain ⟨last, new, same'⟩ := there.kept place other between
  exact ⟨last, new, same'.trans same⟩

/-- Storing an entry where there is none, or none of another sort, makes a tree grow. -/
theorem put (tree : FileTree) (below : place ≠ []) (entry : Entry)
    (same : ∀ old, tree.entry? place = some old → entry.isDirectory = old.isDirectory) :
    Grows tree (tree.put place entry) := by
  refine ⟨rfl, fun other old there => ?_⟩
  rw [entry?_put tree below]
  by_cases here : other = place
  · subst here
    exact ⟨entry, if_pos rfl, same old there⟩
  · exact ⟨old, (if_neg here).trans there, rfl⟩

theorem directory (grows : Grows first second) (inside : first.entry? place = some .directory) :
    second.entry? place = some .directory := by
  obtain ⟨other, there, same⟩ := grows.kept place _ inside
  cases other with
  | file content => cases same
  | directory => exact there

theorem absent (grows : Grows first second) (missing : second.entry? place = none) :
    first.entry? place = none := by
  cases old : first.entry? place with
  | none => rfl
  | some entry =>
    obtain ⟨other, there, -⟩ := grows.kept place entry old
    cases missing.symm.trans there

theorem leads (grows : Grows first second) {name : String} {next : Location}
    (h : Leads first place name next) : Leads second place name next := by
  cases h with
  | stay inside => exact .stay (grows.directory inside)
  | back inside => exact .back (grows.directory inside)
  | down inside noDot noDots short there =>
    obtain ⟨other, there, -⟩ := grows.kept _ _ there
    exact .down (grows.directory inside) noDot noDots short there

theorem walk (grows : Grows first second) {start next : Location} {names : List String}
    (h : first.walk start names = .ok next) : second.walk start names = .ok next := by
  induction names using List.reverseRecOn generalizing next with
  | nil => exact h
  | append_singleton before name ih =>
    obtain ⟨place, way, last⟩ := walk_concat_eq_ok_iff.mp h
    exact walk_concat_eq_ok_iff.mpr ⟨place, ih way, grows.leads last⟩

end Grows

/-! ### Making directories -/

/-- The last name of a way and the directory in which it stands. -/
theorem lastStep_eq_ok {tree : FileTree} {start place : Location} {names : List String}
    {name : String} (h : tree.lastStep start names = .ok (place, some name)) :
    ∃ before, names = before ++ [name] ∧ name ≠ "." ∧ name ≠ ".." ∧
      tree.walk start before = .ok place ∧ tree.entry? place = some .directory := by
  obtain ⟨_, way, rest⟩ := bind_eq_ok_iff.mp h
  obtain ⟨_, directory, rest⟩ := bind_eq_ok_iff.mp rest
  obtain ⟨rfl, last⟩ := Prod.mk.inj (Except.ok.inj rest)
  obtain ⟨last, proper⟩ := Option.filter_eq_some_iff.mp last
  have inside := requireDirectory_eq_ok_iff.mp directory
  simp only [ne_eq, Bool.and_eq_true, decide_eq_true_eq] at proper
  refine ⟨names.dropLast, ?_, proper.1, proper.2, way, inside⟩
  exact (List.dropLast_append_getLast? name last).symm

/-- A directory that was missing before on the way of some names, and is there afterwards. -/
def MadeOnTheWay (before after : FileTree) (start : Location) (names : List String)
    (place : Location) : Prop :=
  before.entry? place = none ∧ after.entry? place = some .directory ∧
    ∃ leading, leading <+: names ∧ after.walk start leading = .ok place

theorem MadeOnTheWay.grow {before between after : FileTree} {start place : Location}
    {names : List String} (h : MadeOnTheWay before between start names place)
    (grows : Grows between after) : MadeOnTheWay before after start names place := by
  obtain ⟨missing, made, leading, part, way⟩ := h
  exact ⟨missing, grows.directory made, leading, part, grows.walk way⟩

/-- One tree is another one with directories made on the way of some names. -/
structure AddsDirectories (before after : FileTree) (start : Location) (names : List String) :
    Prop where
  grows : Grows before after
  changed : ∀ place, after.entry? place = before.entry? place ∨
    MadeOnTheWay before after start names place

theorem AddsDirectories.refl (tree : FileTree) (start : Location) (names : List String) :
    AddsDirectories tree tree start names :=
  ⟨.refl tree, fun _ => .inl rfl⟩

theorem AddsDirectories.trans {first second third : FileTree} {start : Location}
    {names : List String} (here : AddsDirectories first second start names)
    (there : AddsDirectories second third start names) :
    AddsDirectories first third start names := by
  refine ⟨here.grows.trans there.grows, fun place => ?_⟩
  rcases there.changed place with same | ⟨missing, made, way⟩
  · rcases here.changed place with same' | made
    · exact .inl (same.trans same')
    · exact .inr (made.grow there.grows)
  · exact .inr ⟨here.grows.absent missing, made, way⟩

theorem AddsDirectories.mono {before after : FileTree} {start : Location} {names more : List String}
    (h : AddsDirectories before after start names) (part : names <+: more) :
    AddsDirectories before after start more := by
  refine ⟨h.grows, fun place => ?_⟩
  rcases h.changed place with same | ⟨missing, made, leading, part', way⟩
  · exact .inl same
  · exact .inr ⟨missing, made, leading, part'.trans part, way⟩

theorem makeDirectory_adds {tree made : FileTree} {start : Location} {names : List String}
    (h : tree.makeDirectory start names = .ok made) : AddsDirectories tree made start names := by
  obtain ⟨⟨place, last⟩, step, rest⟩ := bind_eq_ok_iff.mp h
  cases last with
  | none => cases rest
  | some name =>
    obtain ⟨before, rfl, noDot, noDots, way, inside⟩ := lastStep_eq_ok step
    obtain ⟨child, found, rest⟩ := bind_eq_ok_iff.mp rest
    obtain ⟨short, there⟩ := child?_eq_ok_iff.mp found
    cases child with
    | some entry => cases rest
    | none =>
      obtain rfl := Except.ok.inj rest
      have below : place ++ [name] ≠ [] := List.append_ne_nil_of_right_ne_nil _ (by simp)
      have grows : Grows tree (tree.put (place ++ [name]) .directory) :=
        .put tree below _ fun old is => (by cases there.symm.trans is)
      refine ⟨grows, fun other => ?_⟩
      rw [entry?_put tree below]
      by_cases here : other = place ++ [name]
      · subst here
        have new := (entry?_put tree below .directory (place ++ [name])).trans (if_pos rfl)
        refine .inr ⟨there, new, _, List.prefix_rfl, walk_concat_eq_ok_iff.mpr ⟨place, ?_, ?_⟩⟩
        · exact grows.walk way
        · exact .down (grows.directory inside) noDot noDots short new
      · exact .inl (if_neg here)

/-- **Making directories adds directories on the way**, and changes nothing else, whether or not all
of them can be made. -/
theorem makeDirectories_adds (start : Location) (reversed : List String) (tree : FileTree) :
    AddsDirectories tree (makeDirectories start reversed tree).1 start reversed.reverse := by
  induction reversed generalizing tree with
  | nil => exact .refl tree start []
  | cons last before ih =>
    have part : before.reverse <+: (last :: before).reverse := by
      rw [List.reverse_cons]
      exact List.prefix_append _ _
    have recursive := (ih tree).mono part
    rw [List.reverse_cons] at recursive ⊢
    unfold makeDirectories
    dsimp only
    split
    · next made one => exact makeDirectory_adds one
    · split
      · next made reason is =>
        rw [is] at recursive
        exact recursive
      · next made _ is =>
        rw [is] at recursive
        split
        · next all one => exact recursive.trans (makeDirectory_adds one)
        · exact recursive
    · exact .refl tree start _

theorem ensureDirectory_adds (tree : FileTree) (path : Path) :
    AddsDirectories tree (tree.ensureDirectory path).1 (tree.start path) path.names := by
  rw [ensureDirectory]
  split
  · have adds := makeDirectories_adds (tree.start path) path.names.reverse tree
    rwa [List.reverse_reverse] at adds
  · exact .refl tree _ _

/-! ### Writing a file -/

/-- Writing puts a file under the last name of the path, unless a directory is there. -/
theorem put_of_write {tree written : FileTree} {path : Path} {content : ByteArray}
    (h : tree.write path content = .ok written) :
    path.requireWellFormed = .ok () ∧ path.text ≠ "" ∧ ¬ path.endsInSlash = true ∧
      ∃ place name, tree.lastStep (tree.start path) path.parts = .ok (place, some name) ∧
        name.utf8ByteSize ≤ nameLimit ∧ tree.entry? (place ++ [name]) ≠ some .directory ∧
        written = tree.put (place ++ [name]) (.file content) := by
  obtain ⟨_, wellFormed, h⟩ := bind_eq_ok_iff.mp h
  dsimp only at h
  by_cases empty : path.text.isEmpty = true
  · rw [if_pos empty] at h
    cases h
  rw [if_neg empty] at h
  obtain ⟨⟨place, last⟩, step, h⟩ := bind_eq_ok_iff.mp h
  cases last with
  | none => cases h
  | some name =>
    dsimp only at h
    by_cases slash : path.endsInSlash = true
    · rw [if_pos slash] at h
      cases h
    rw [if_neg slash] at h
    obtain ⟨child, found, h⟩ := bind_eq_ok_iff.mp h
    obtain ⟨short, rfl⟩ := child?_eq_ok_iff.mp found
    refine ⟨wellFormed, fun none => empty (String.isEmpty_iff.mpr none), slash, place, name, step,
      short, ?_⟩
    split at h
    · cases h
    · next free => exact ⟨free, (Except.ok.inj h).symm⟩

/-- **Writing stores one file**, where there is no directory, and the path leads there
afterwards. -/
theorem write_eq_ok {tree written : FileTree} {path : Path} {content : ByteArray}
    (h : tree.write path content = .ok written) :
    ∃ place, tree.entry? place ≠ some .directory ∧ written.locate path = .ok place ∧
      written.entry? place = some (.file content) ∧
      (∀ other, other ≠ place → written.entry? other = tree.entry? other) ∧ Grows tree written := by
  obtain ⟨wellFormed, nonempty, noSlash, place, name, step, short, free, rfl⟩ := put_of_write h
  obtain ⟨before, parts, noDot, noDots, way, inside⟩ := lastStep_eq_ok step
  have below : place ++ [name] ≠ [] := List.append_ne_nil_of_right_ne_nil _ (by simp)
  have new := (entry?_put tree below (.file content) (place ++ [name])).trans (if_pos rfl)
  have grows : Grows tree (tree.put (place ++ [name]) (.file content)) := by
    refine .put tree below _ fun old is => ?_
    cases old with
    | file => rfl
    | directory => exact absurd is free
  have others : ∀ other, other ≠ place ++ [name] →
      FileTree.entry? (tree.put (place ++ [name]) (.file content)) other = tree.entry? other :=
    fun other apart => (entry?_put tree below _ other).trans (if_neg apart)
  refine ⟨place ++ [name], free, locate_eq_ok_iff.mpr ⟨wellFormed, nonempty, ?_, ?_⟩, new, others,
    grows⟩
  · rw [parts]
    exact walk_concat_eq_ok_iff.mpr ⟨place, grows.walk way,
      .down (grows.directory inside) noDot noDots short new⟩
  · exact fun slash => absurd slash noSlash

/-! ### Reading -/

theorem read_of_locate {tree : FileTree} {path : Path} {place : Location} {content : ByteArray}
    (leads : tree.locate path = .ok place) (there : tree.entry? place = some (.file content)) :
    tree.read path = .ok content := by
  refine bind_eq_ok_iff.mpr ⟨place, leads, ?_⟩
  rw [there]
  rfl

/-- **A text is read back from the bytes that it is written as.** -/
theorem readText_of_read {tree : FileTree} {path : Path} {text : String}
    (read : tree.read path = .ok text.toUTF8) : tree.readText path = .ok text := by
  have decoded : String.fromUTF8? text.toUTF8 = some text :=
    (dif_pos (text.isValidUTF8 : text.toUTF8.IsValidUTF8)).trans rfl
  refine bind_eq_ok_iff.mpr ⟨_, read, ?_⟩
  rw [decoded]
  rfl

end FileTree

end DumpDigest

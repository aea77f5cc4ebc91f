import DumpDigest.Proofs.Files.Parents
import DumpDigest.Proofs.Report.Output

/-!
# A document is stored or nothing is lost

`writeDocument_stores_or_refuses` tells the two ways in which an attempt to write a document ends.
Either the document is what the file at the path holds, the directories on the way to it are there,
and all other files are as before; or an error says what stands in the way, and all files are as
before.

That no file is lost is read off `writeDocument_changes`, since what is made on the way is not in
the place of anything.  That the errors are true goes by the steps of an attempt: what fails without
a file being stored fails for any content (`write_error`), and a directory that could not be made is
not there.
-/

namespace DumpDigest.FileTree

open Result

/-! ### What may be lost -/

/-- A place has the same file before and afterwards, or none. -/
def SameFile (before after : FileTree) (place : Location) : Prop :=
  ∀ content, after.entry? place = some (.file content) ↔ before.entry? place = some (.file content)

section PlaceAfter

variable {before after : FileTree} {path : Path} {written : Option ByteArray} {place : Location}

theorem MadeOnTheWay.sameFile {start : Location} {names : List String}
    (h : MadeOnTheWay before after start names place) : SameFile before after place := by
  obtain ⟨missing, made, -⟩ := h
  intro content
  rw [missing, made]
  exact iff_of_false (by rintro ⟨⟩) (by rintro ⟨⟩)

theorem PlaceAfter.sameFile (h : PlaceAfter before after path written place)
    (elsewhere : written = none ∨ after.locate path ≠ .ok place) : SameFile before after place := by
  cases h with
  | kept same => exact fun content => by rw [same]
  | directory _ made => exact made.sameFile
  | file wrote leads =>
    rcases elsewhere with none | elsewhere
    · cases wrote.symm.trans none
    · exact absurd leads elsewhere

end PlaceAfter

/-! ### What stands in the way -/

/-- Whether a file can be written does not depend on its content. -/
theorem write_error {tree : FileTree} {path : Path} {content : ByteArray} {reason : FileError}
    (failed : tree.write path content = .error reason) (other : ByteArray) :
    tree.write path other = .error reason := by
  unfold write at failed ⊢
  obtain failed | ⟨_, wellFormed, failed⟩ := bind_eq_error_iff.mp failed
  · exact bind_eq_error_iff.mpr (.inl failed)
  refine bind_eq_error_iff.mpr (.inr ⟨_, wellFormed, ?_⟩)
  dsimp only at failed ⊢
  split at failed
  · next empty => rwa [if_pos empty]
  next nonempty =>
  rw [if_neg nonempty]
  obtain failed | ⟨⟨place, last⟩, step, failed⟩ := bind_eq_error_iff.mp failed
  · exact bind_eq_error_iff.mpr (.inl failed)
  refine bind_eq_error_iff.mpr (.inr ⟨_, step, ?_⟩)
  cases last with
  | none => exact failed
  | some name =>
    dsimp only at failed ⊢
    split at failed
    · next slash => rwa [if_pos slash]
    next noSlash =>
    rw [if_neg noSlash]
    obtain failed | ⟨child, found, failed⟩ := bind_eq_error_iff.mp failed
    · exact bind_eq_error_iff.mpr (.inl failed)
    refine bind_eq_error_iff.mpr (.inr ⟨_, found, ?_⟩)
    split at failed
    · exact failed
    · cases failed

/-- Nor does the place depend on the content. -/
theorem write_ok {tree written : FileTree} {path : Path} {content : ByteArray}
    (wrote : tree.write path content = .ok written) :
    ∃ place, ∀ other, tree.write path other = .ok (tree.put place (.file other)) := by
  obtain ⟨-, -, -, place, name, step, -, -, -⟩ := put_of_write wrote
  refine ⟨place ++ [name], fun other => ?_⟩
  cases wrote' : tree.write path other with
  | error reason => cases wrote.symm.trans (write_error wrote' _)
  | ok written' =>
    obtain ⟨-, -, -, place', name', step', -, -, rfl⟩ := put_of_write wrote'
    obtain ⟨rfl, last⟩ := Prod.mk.inj (Except.ok.inj (step.symm.trans step'))
    obtain rfl := Option.some.inj last
    rfl

/-- **What a document says does not matter to an attempt to write it**, but for what the file then
holds. -/
theorem writeDocument_congr (tree : FileTree) (path : Path) (document other : Document) :
    tree.writeDocument path document = tree.writeDocument path other ∨
      ∃ made place,
        tree.writeDocument path document =
          (put made place (.file document.text.toUTF8), .ok ()) ∧
        tree.writeDocument path other = (put made place (.file other.text.toUTF8), .ok ()) := by
  rw [writeDocument, writeDocument]
  split
  · exact .inl rfl
  split
  · exact .inl rfl
  split
  · exact .inl rfl
  next made _ =>
  cases attempt : made.write path document.text.toUTF8 with
  | error reason =>
    rw [write_error attempt]
    exact .inl rfl
  | ok written =>
    obtain ⟨place, writes⟩ := write_ok attempt
    obtain rfl := Except.ok.inj (attempt.symm.trans (writes _))
    rw [writes]
    exact .inr ⟨made, place, rfl, rfl⟩

theorem ensureParent_error {tree made : FileTree} {path : Path} {error : OutputError}
    (failed : tree.ensureParent path = (made, .error error)) :
    ∃ parent reason, error = .noParent parent reason ∧ path.parent? = some parent ∧
      parent.text ≠ "" ∧ tree.at? parent = none ∧
      tree.ensureDirectory parent = (made, .error reason) := by
  unfold ensureParent at failed
  split at failed
  · cases failed
  · next parent parentOf =>
    split at failed
    · cases failed
    · next missing =>
      rw [Bool.or_eq_true, not_or, String.isEmpty_iff, Option.not_isSome_iff_eq_none] at missing
      generalize attempt : tree.ensureDirectory parent = outcome at failed
      obtain ⟨made', result⟩ := outcome
      obtain ⟨rfl, refused⟩ := Prod.mk.inj failed
      obtain ⟨reason, rfl, rfl⟩ := mapError_eq_error_iff.mp refused
      exact ⟨parent, reason, rfl, parentOf, missing.1, missing.2, attempt⟩

/-- What an error says about the files before and after an attempt to write to a path. -/
inductive Unwritable (before after : FileTree) (path : Path) : OutputError → Prop
  | emptyPath (empty : path.text = "") : Unwritable before after path .emptyPath
  | directory (there : before.isDirectory path = true) :
      Unwritable before after path (.directory path)
  | noParent {parent : Path} {reason : FileError} (parentOf : path.parent? = some parent)
      (named : parent.text ≠ "") (missing : before.at? parent = none)
      (failed : before.ensureDirectory parent = (after, .error reason))
      (absent : after.isDirectory parent = false) :
      Unwritable before after path (.noParent parent reason)
  | notWritten {reason : FileError}
      (failed : ∀ content, after.write path content = .error reason) :
      Unwritable before after path (.notWritten reason)

/-! ### What is stored -/

/-- A document is stored under a path: the path leads to a file that reads as the document, all
parents of the path are directories, and the files of other places are kept. -/
structure Stored (before after : FileTree) (path : Path) (document : Document) : Prop where
  read : after.readText path = .ok document.text
  parent : ∀ parent, path.parent? = some parent → parent.text ≠ "" →
    after.isDirectory parent = true
  parents : ∀ leading, leading <+: path.parts.dropLast →
    after.leadToDirectory (after.start path) leading = true
  others : ∃ place, after.locate path = .ok place ∧
    after.entry? place = some (.file document.text.toUTF8) ∧
    ∀ other, other ≠ place → SameFile before after other

/-- **A file lies in a directory, which is the parent of its path.** -/
theorem parents_of_write {tree written : FileTree} {path : Path} {content : ByteArray}
    (wrote : tree.write path content = .ok written) :
    (∀ parent, path.parent? = some parent → parent.text ≠ "" →
      written.isDirectory parent = true) ∧
    ∀ leading, leading <+: path.parts.dropLast →
      written.leadToDirectory (written.start path) leading = true := by
  obtain ⟨wellFormed, -, noSlash, place, name, step, -⟩ := put_of_write wrote
  obtain ⟨before, parts, noDot, -, way, inside⟩ := lastStep_eq_ok step
  obtain ⟨-, -, -, -, -, grows⟩ := write_eq_ok wrote
  have way' : written.walk (written.start path) before = .ok place := by
    rw [start, grows.workingDirectory]
    exact grows.walk way
  have inside' := grows.directory inside
  constructor
  · intro parent parentOf named
    exact isDirectory_of_parent wellFormed parts noDot noSlash parentOf named way' inside'
  · intro leading part
    rw [parts, List.dropLast_concat] at part
    exact leadToDirectory_of_prefix part (leadToDirectory_iff.mpr ⟨place, way', inside'⟩)

/-- **A document is stored under its path, and all other files are kept; or an error says what is in
the way, and all files are kept.** -/
theorem writeDocument_stores_or_refuses (tree : FileTree) (path : Path) (document : Document) :
    ((tree.writeDocument path document).2 = .ok () ∧
      Stored tree (tree.writeDocument path document).1 path document) ∨
    ∃ error, (tree.writeDocument path document).2 = .error error ∧
      Unwritable tree (tree.writeDocument path document).1 path error ∧
      ∀ place, SameFile tree (tree.writeDocument path document).1 place := by
  obtain ⟨-, changes⟩ := writeDocument_changes tree path document
  have reads := @readText_of_writeDocument tree path document
  have attempt := attempt_writeDocument tree path document
  generalize tree.writeDocument path document = outcome at changes reads attempt ⊢
  have kept : outcome.2 ≠ .ok () → ∀ place, SameFile tree outcome.1 place := fun refused place =>
    (changes place).sameFile (.inl (writtenContent_eq_none refused))
  cases attempt with
  | emptyPath empty => exact .inr ⟨_, rfl, .emptyPath empty, kept (by rintro ⟨⟩)⟩
  | directory there => exact .inr ⟨_, rfl, .directory there, kept (by rintro ⟨⟩)⟩
  | noParent attempt =>
    obtain ⟨parent, reason, rfl, parentOf, named, missing, failed⟩ := ensureParent_error attempt
    have absent := isDirectory_of_ensureDirectory failed
    exact .inr ⟨_, rfl, .noParent parentOf named missing failed absent, kept (by rintro ⟨⟩)⟩
  | notWritten _ failed =>
    exact .inr ⟨_, rfl, .notWritten (write_error failed), kept (by rintro ⟨⟩)⟩
  | written _ wrote =>
    obtain ⟨parent, parents⟩ := parents_of_write wrote
    obtain ⟨place, -, leads, there, -⟩ := write_eq_ok wrote
    refine .inl ⟨rfl, reads rfl, parent, parents, place, leads, there, fun other apart => ?_⟩
    refine (changes other).sameFile (.inr fun leads' => apart ?_)
    exact Except.ok.inj (leads'.symm.trans leads)

end DumpDigest.FileTree

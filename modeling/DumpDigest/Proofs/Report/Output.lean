import DumpDigest.Proofs.Files.Changes
import DumpDigest.Report.Output

/-!
# What writing a document changes

`writeDocument_changes` goes through all places of a tree: after an attempt to write a document each
of them is as before, or it is a directory that was missing on the way to the file's directory, or,
if the attempt succeeded, it is the file.

An `Attempt` ends in one of five ways, and what is said of writing is said of each of them.

What the file holds is the text of the document, in which the number of dumps stands on a line of
its own (`Document.text_eq_spelled`).
-/

namespace DumpDigest

namespace Document

/-- The members of a document on lines of their own; the data may go on over further lines. -/
def spelled (document : Document) : String :=
  let members : List String :=
    ["\"version\": \"1.0.0\"", "\"report\": " ++ Json.quoted document.report.name,
      "\"generated_at\": " ++ Json.quoted document.generatedAt,
      "\"inputs\": " ++ document.inputs.repr, "\"data\": " ++ document.data.prettyAt 1]
  "\x7b\n  " ++ ",\n  ".intercalate members ++ "\n\x7d"

theorem text_eq_spelled (document : Document) : document.text = document.spelled := by
  have members : Json.prettyMembers 1 [("version", .string schemaVersion),
      ("report", .string document.report.name), ("generated_at", .string document.generatedAt),
      ("inputs", .integer document.inputs), ("data", document.data)] =
      ["\"version\": \"1.0.0\"", "\"report\": " ++ Json.quoted document.report.name,
        "\"generated_at\": " ++ Json.quoted document.generatedAt,
        "\"inputs\": " ++ document.inputs.repr, "\"data\": " ++ document.data.prettyAt 1] := rfl
  rw [text, Json.pretty, toJson, Json.prettyAt, members, Json.spread, String.append_assoc]
  · rfl
  · simp

end Document

namespace FileTree

/-- How an attempt to write a document goes: the tree and the result that it ends with. -/
inductive Attempt (tree : FileTree) (path : Path) (document : Document) :
    FileTree × Except OutputError Unit → Prop
  | emptyPath (empty : path.text = "") : Attempt tree path document (tree, .error .emptyPath)
  | directory (there : tree.isDirectory path = true) :
      Attempt tree path document (tree, .error (.directory path))
  | noParent {made : FileTree} {error : OutputError}
      (attempt : tree.ensureParent path = (made, .error error)) :
      Attempt tree path document (made, .error error)
  | written {made written : FileTree} (attempt : tree.ensureParent path = (made, .ok ()))
      (wrote : made.write path document.text.toUTF8 = .ok written) :
      Attempt tree path document (written, .ok ())
  | notWritten {made : FileTree} {reason : FileError}
      (attempt : tree.ensureParent path = (made, .ok ()))
      (failed : made.write path document.text.toUTF8 = .error reason) :
      Attempt tree path document (made, .error (.notWritten reason))

theorem attempt_writeDocument (tree : FileTree) (path : Path) (document : Document) :
    Attempt tree path document (tree.writeDocument path document) := by
  rw [writeDocument]
  split
  · next empty => exact .emptyPath (String.isEmpty_iff.mp empty)
  split
  · next there => exact .directory there
  split
  · next made error attempt => exact .noParent attempt
  · next made attempt =>
    split
    · next written wrote => exact .written attempt wrote
    · next reason failed => exact .notWritten attempt failed

/-- What is at a place after something may have been written to a path. -/
inductive PlaceAfter (before after : FileTree) (path : Path) (written : Option ByteArray)
    (place : Location) : Prop
  | kept (same : after.entry? place = before.entry? place)
  | directory {parent : Path} (parentOf : path.parent? = some parent)
      (made : MadeOnTheWay before after (before.start parent) parent.names place)
  | file {content : ByteArray} (wrote : written = some content)
      (leads : after.locate path = .ok place) (free : before.entry? place ≠ some .directory)
      (stored : after.entry? place = some (.file content))

theorem ensureParent_changes (tree : FileTree) (path : Path) :
    Grows tree (tree.ensureParent path).1 ∧
      ∀ place, PlaceAfter tree (tree.ensureParent path).1 path none place := by
  rw [ensureParent]
  split
  · exact ⟨.refl tree, fun _ => .kept rfl⟩
  · next parent parentOf =>
    split
    · exact ⟨.refl tree, fun _ => .kept rfl⟩
    · have adds := ensureDirectory_adds tree parent
      refine ⟨adds.grows, fun place => ?_⟩
      rcases adds.changed place with same | made
      · exact .kept same
      · exact .directory parentOf made

/-- The content of a file that is written, if it is. -/
def writtenContent (document : Document) (result : Except OutputError Unit) : Option ByteArray :=
  match result with
  | .ok () => some document.text.toUTF8
  | .error _ => none

theorem writtenContent_eq_none {document : Document} {result : Except OutputError Unit}
    (undone : result ≠ .ok ()) : writtenContent document result = none := by
  cases result with
  | ok => exact absurd rfl undone
  | error error => rfl

/-- **Writing a document changes nothing but what is missing on the way and the file.** -/
theorem writeDocument_changes (tree : FileTree) (path : Path) (document : Document) :
    Grows tree (tree.writeDocument path document).1 ∧
      ∀ place, PlaceAfter tree (tree.writeDocument path document).1 path
        (writtenContent document (tree.writeDocument path document).2) place := by
  have attempt := attempt_writeDocument tree path document
  obtain ⟨grows, changes⟩ := ensureParent_changes tree path
  generalize tree.writeDocument path document = outcome at attempt ⊢
  cases attempt with
  | emptyPath => exact ⟨.refl tree, fun _ => .kept rfl⟩
  | directory => exact ⟨.refl tree, fun _ => .kept rfl⟩
  | noParent attempt =>
    rw [attempt] at grows changes
    exact ⟨grows, changes⟩
  | notWritten attempt =>
    rw [attempt] at grows changes
    exact ⟨grows, changes⟩
  | written attempt wrote =>
    rw [attempt] at grows changes
    obtain ⟨filePlace, free, leads, stored, others, growsOn⟩ := write_eq_ok wrote
    refine ⟨grows.trans growsOn, fun place => ?_⟩
    by_cases here : place = filePlace
    · subst here
      exact .file rfl leads (fun old => free (grows.directory old)) stored
    · have same := others place here
      cases changes place with
      | kept same' => exact .kept (same.trans same')
      | directory parentOf new => exact .directory parentOf (new.grow growsOn)
      | file none => cases none

theorem readText_of_writeDocument {tree : FileTree} {path : Path} {document : Document}
    (wrote : (tree.writeDocument path document).2 = .ok ()) :
    (tree.writeDocument path document).1.readText path = .ok document.text := by
  have attempt := attempt_writeDocument tree path document
  generalize tree.writeDocument path document = outcome at attempt wrote ⊢
  cases attempt with
  | emptyPath => cases wrote
  | directory => cases wrote
  | noParent => cases wrote
  | notWritten => cases wrote
  | written _ stored =>
    obtain ⟨place, -, leads, there, -⟩ := write_eq_ok stored
    exact readText_of_read (read_of_locate leads there)

end FileTree

end DumpDigest

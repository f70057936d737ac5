import EditorAnalysis.Config.Decode

/-!
# Settings from a file

A file with settings holds a text in UTF-8. Of the files only what lies at each path matters.
-/

namespace EditorAnalysis.Config

/-- What lies at a path. -/
inductive FileEntry where
  | file (content : ByteArray)
  | directory

/-- What lies at each path; nothing lies at most of them. -/
abbrev FileTree := String → Option FileEntry

/-- The text of the file at a path. -/
def readText (files : FileTree) (path : String) : Except Error String :=
  match files path with
  | none => .error (.unreadable path "No such file or directory (os error 2)")
  | some .directory => .error (.unreadable path "Is a directory (os error 21)")
  | some (.file content) =>
      match String.fromUTF8? content with
      | none => .error (.unreadable path "stream did not contain valid UTF-8")
      | some text => .ok text

/-- The settings in the file at a path. -/
def load (files : FileTree) (path : String) : Except Error Config := do
  ofText (← readText files path)

end EditorAnalysis.Config

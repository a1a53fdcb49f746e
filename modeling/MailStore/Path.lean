/-!
# Paths and the files every machine has

A path is text with `/` between its parts. Its clean form drops empty and `.` parts and lets
each `..` take away the part before it, so two paths name the same file exactly when their
clean forms agree.

Reading a file fails with the reason the operating system gives, after the operation and
the path as given: `open p: no such file or directory` when nothing is there, `open p: not
a directory` when a part above it is a file, and `read p: is a directory` when it names a
directory. On a machine where nothing was written, the directories are the usual top-level
ones and the one file is the empty device `/dev/null`.

## Main definitions

* `Path.clean`: the clean form of a path.
* `Path.readSystem`: reading a file on a machine where nothing was written.
-/

namespace MailStore

namespace Path

/-- The clean form of a path: no repeated or trailing slashes, no `.` parts, and each `..`
taking away the part before it (at the root it stays at the root). -/
def clean (p : String) : String :=
  let rooted := p.startsWith "/"
  let parts := (p.splitOn "/").filter fun x => x ≠ "" ∧ x ≠ "."
  let stack := parts.foldl (fun acc x =>
    if x = ".." then
      match acc with
      | top :: rest => if top = ".." then x :: acc else rest
      | [] => if rooted then [] else [x]
    else x :: acc) ([] : List String)
  let body := "/".intercalate stack.reverse
  if rooted then "/" ++ body else if body.isEmpty then "." else body

/-- The directory part of a path, clean; `.` when the path has no slash. -/
def dirOf (p : String) : String :=
  match p.toList.reverse.dropWhile (· ≠ '/') with
  | [] => "."
  | rest => clean (String.ofList rest.reverse)

/-- The clean paths of the directories above a clean path, nearest first. -/
def above (r : String) : List String :=
  let parts := (r.splitOn "/").filter (· ≠ "")
  let prefixes := (List.range parts.length).map fun k =>
    (if r.startsWith "/" then "/" else "") ++ "/".intercalate (parts.take k)
  (prefixes.filter (· ≠ "")).reverse

/-- The directories every machine has. -/
def systemDirs : List String :=
  ["/", "/dev", "/tmp", "/etc", "/root", "/home", "/usr", "/var", "/opt", "/proc", "/sys",
   "/bin", "/lib", "/run", "/srv", "/mnt"]

/-- The files every machine has, with their text. -/
def systemFiles : List (String × String) := [("/dev/null", "")]

/-- Reads the file at the full clean path `r`, given as `p`, where the directories are
`isDir`, the files with text are `text?`, and other files (which cannot be read as text
here) are `isFile`; fails with the system's reason, naming the path as given. -/
def read (isDir : String → Bool) (text? : String → Option String) (isFile : String → Bool)
    (r p : String) : Except String String :=
  if isDir r then .error ("read " ++ p ++ ": is a directory")
  else match text? r with
    | some t => .ok t
    | none =>
      if (above r).any fun d => (text? d).isSome ∨ isFile d then
        .error ("open " ++ p ++ ": not a directory")
      else .error ("open " ++ p ++ ": no such file or directory")

/-- Reads a file on a machine where nothing was written. -/
def readSystem (p : String) : Except String String :=
  read systemDirs.contains (fun r => List.lookup r systemFiles) (fun _ => false) (clean p) p

theorem read_dir (isDir : String → Bool) (text? : String → Option String)
    (isFile : String → Bool) (r p : String) (h : isDir r = true) :
    read isDir text? isFile r p = .error ("read " ++ p ++ ": is a directory") := by
  simp [read, h]

theorem read_text (isDir : String → Bool) (text? : String → Option String)
    (isFile : String → Bool) (r p t : String) (h : isDir r = false) (ht : text? r = some t) :
    read isDir text? isFile r p = .ok t := by
  simp [read, h, ht]

end Path

end MailStore

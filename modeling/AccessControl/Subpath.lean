import AccessControl.Resource
import AccessControl.Text.Split

/-!
# Subpaths

A subpath names a place inside a space.  Written out it is the root `/` or segments joined by
single slashes.  Permissions may also hold markers in the place of a segment: one stands for the
user who asks, one for every subpath at its depth.

Access to a place is decided by walking from the root down to it, so the central notion is the list
of prefixes of a place, and for each prefix the subpath under which "all subpaths" grants are
looked up there.
-/

namespace AccessControl

/-- The space of permissions that hold in every space. -/
def allSpaces : String := "__all_spaces__"

namespace Subpath

/-- The segment that stands for every subpath at its depth. -/
def everywhere : String := "__all_subpaths__"

/-- The text that is replaced by the name of the user who asks. -/
def currentUser : String := "__current_user__"

/-- The top of a space. -/
def root : String := "/"

/-- The non-empty segments of a path. -/
def segments (path : String) : List String :=
  (Text.split '/' path).filter (· ≠ "")

/-- The subpath with the given segments. -/
def ofSegments : List String → String
  | [] => root
  | segments => Text.join '/' segments

/-- The characters without the slashes at both ends. -/
def trimmed (path : List Char) : List Char :=
  ((path.dropWhile (· = '/')).reverse.dropWhile (· = '/')).reverse

/-- A path without the slashes at both ends; the root if nothing is left.  Slashes that follow
each other inside the path stay. -/
def normalize (path : String) : String :=
  match trimmed path.toList with
  | [] => root
  | chars => String.ofList chars

/-- The place that a permission's subpath names for one user.  Doubled slashes are made single in
one pass, so a longer run of them is halved and not removed. -/
def resolve (subpath user : String) : String :=
  normalize (Text.replace "//" "/" (Text.replace currentUser user subpath))

/-- The subpaths made of the first segments, from the root to all of them. -/
def initials (segments : List String) : List String :=
  (List.range (segments.length + 1)).map fun depth => ofSegments (segments.take depth)

/-- The root and every further prefix of a path, the path itself last. -/
def prefixes (path : String) : List String :=
  initials (segments path)

/-- The segments of the place that an entry occupies.  What a folder holds lies below the folder, so
for a folder its own name is a segment too, as it stands. -/
def place (path : String) (type : ResourceType) (entry : Option String) : List String :=
  segments path ++ if type = .folder then entry.toList else []

/-- The prefixes that are walked, from the root down, to decide on an entry. -/
def walk (path : String) (type : ResourceType) (entry : Option String) : List String :=
  initials (place path type entry)

/-- A prefix of two or more segments with the second one widened to every subpath. -/
def wildcard? (path : String) : Option String :=
  match segments path with
  | first :: _ :: rest => some (Text.join '/' (first :: everywhere :: rest))
  | _ => none

/-- The subpath under which "all subpaths" grants are looked up at a prefix. -/
def globalAccess (path : String) : String :=
  (wildcard? path).getD everywhere

/-- Whether a place is another one or lies above it. -/
def isAncestorOrSelf (ancestor path : String) : Bool :=
  ancestor = root || ancestor = path ||
    match Text.afterChars? ancestor.toList path.toList with
    | some ('/' :: _) => true
    | _ => false

/-- Whether one of two places lies above the other, or both are the same. -/
def overlap (a b : String) : Bool :=
  isAncestorOrSelf a b || isAncestorOrSelf b a

/-- Whether a permission's subpath holds the marker for every subpath. -/
def isWide (path : String) : Bool :=
  Text.contains path everywhere

/-- The place below which a permission's subpath applies: what stands before the marker for every
subpath, if it holds one. -/
def fixedPart (path : String) : String :=
  if isWide path then normalize (Text.before everywhere path) else path

example : prefixes "a//b/c" = ["/", "a", "a/b", "a/b/c"] := by decide
example : wildcard? "a/b/c" = some "a/__all_subpaths__/c" := by decide
example : normalize "//a//b/" = "a//b" := by decide
example : isAncestorOrSelf "blog" "blogs" = false := by decide

end Subpath

end AccessControl

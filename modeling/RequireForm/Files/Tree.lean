import RequireForm.Files.Path

/-!
# File trees — the files and directories below a working directory

A place is the list of names that lead to it from the working directory. Of what lies outside
nothing is known; only the directories on the way there exist. They have places that start
with `..` or with the root's.

  1. `Content`, `Entry`, `Place`.
  2. `FileTree`: `get?` is its view, and `put` changes it at one place.
-/

namespace RequireForm

/-- What a file holds: a text, or bytes that are no text. -/
inductive Content where
  | text (t : Text)
  | bytes (b : List UInt8)
  deriving DecidableEq, Repr

/-- The content that some bytes are. -/
def Content.ofBytes (b : List UInt8) : Content :=
  match String.fromUTF8? ⟨b.toArray⟩ with
  | some s => .text s.toList
  | none => .bytes b

/-- What a place holds. -/
inductive Entry where
  | directory
  | file (content : Content)
  deriving DecidableEq, Repr

/-- A place, by the names that lead to it. -/
abbrev FilePlace := List Text

namespace FilePlace

/-- The root, outside the working directory. -/
def root : FilePlace := [['/']]

/-- The place holds a directory in any case: the working directory, one above it, or the
    root. -/
def isFixed (p : FilePlace) : Bool := p = root || p.all (· = FilePath.above)

/-- The place above. -/
def parent (p : FilePlace) : FilePlace :=
  if p = root then p
  else if isFixed p then p ++ [FilePath.above]
  else p.dropLast

end FilePlace

/-- Files and directories by their places. -/
structure FileTree where
  entries : List (FilePlace × Entry)
  deriving DecidableEq, Repr

namespace FileTree

def empty : FileTree := ⟨[]⟩

/-- What a place holds. -/
def get? (t : FileTree) (p : FilePlace) : Option Entry :=
  if FilePlace.isFixed p then some .directory else t.entries.lookup p

/-- Put something at a place, instead of what it holds. -/
def putIn (p : FilePlace) (e : Entry) : List (FilePlace × Entry) → List (FilePlace × Entry)
  | [] => [(p, e)]
  | (q, d) :: rest => if q = p then (p, e) :: rest else (q, d) :: putIn p e rest

/-- The tree with something else at a place. -/
def put (t : FileTree) (p : FilePlace) (e : Entry) : FileTree := ⟨putIn p e t.entries⟩

/-- A directory is at the place. -/
def isDirectory (t : FileTree) (p : FilePlace) : Bool := t.get? p = some .directory

theorem lookup_putIn (p q : FilePlace) (e : Entry) (entries : List (FilePlace × Entry)) :
    (putIn p e entries).lookup q = if q = p then some e else entries.lookup q := by
  induction entries with
  | nil => by_cases h : q = p <;> simp [putIn, List.lookup_cons, h, beq_eq_false_iff_ne.2]
  | cons head rest ih =>
    obtain ⟨r, d⟩ := head
    by_cases hr : r = p
    · subst hr
      by_cases h : q = r <;> simp [putIn, List.lookup_cons, h, beq_eq_false_iff_ne.2]
    · by_cases h : q = r
      · subst h
        simp [putIn, hr]
      · simp [putIn, List.lookup_cons, hr, beq_eq_false_iff_ne.2 h, ih]

theorem get?_put (t : FileTree) {p : FilePlace} (e : Entry) (q : FilePlace)
    (h : FilePlace.isFixed p = false) :
    (t.put p e).get? q = if q = p then some e else t.get? q := by
  unfold get? put
  by_cases hq : FilePlace.isFixed q = true
  · have : q ≠ p := fun hqp => by simp [hqp, h] at hq
    simp [hq, this]
  · simp [hq, lookup_putIn]

end FileTree

end RequireForm

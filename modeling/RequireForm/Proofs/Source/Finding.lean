import RequireForm.Proofs.Source.Cursor
import RequireForm.Proofs.Source.Visit

/-!
# Finding — a cursor at every line start that nothing covers

    line starts   0   9   20   31           a statement from 0 to 24
    resume        0   24  24   24
                  ^            ^            a cursor is set up

A source is searched by offsets: the line starts are taken from its bytes, those in front of the
end of the last statement are passed over, and at each of the others a cursor is set up and a
scan tried. Where the scan agrees with a reader the search slips nowhere, and it finds the
located statements of the cut. The induction is on the visit of the line starts.
-/

namespace RequireForm

open Text

variable {α : Type}

namespace Scan

/-- Search from line starts, each an offset with the number of its line, of which those before
    `resume` are passed over. -/
def findFrom (scan : Scan α) (source : Text) (resume : Nat) :
    List (Nat × Nat) → Except Slip (List (Located α))
  | [] => return []
  | (start, line) :: starts => do
      if start < resume then findFrom scan source resume starts
      else
        source.standIn start
        match ← scan source start with
        | none => findFrom scan source resume starts
        | some (x, stop) =>
            let found ← findFrom scan source stop starts
            return ⟨⟨start, stop⟩, line, x⟩ :: found

/-- Search a whole source. -/
def find (scan : Scan α) (source : Text) : Except Slip (List (Located α)) :=
  findFrom scan source 0 ((lineOffsets source).zipIdx 1)

variable {scan : Scan α} {read : Text → Option (α × Text)} {source before rest written : Text}
  {starts : List (Nat × Nat)} {found : List (Located α)} {resume start line : Nat} {x : α}

theorem findFrom_covered (h : start < resume) :
    findFrom scan source resume ((start, line) :: starts) = findFrom scan source resume starts := by
  rw [findFrom, if_pos h]

theorem findFrom_nothing (hle : resume ≤ before.byteLength) (h : Agrees scan before rest none) :
    findFrom scan (before ++ rest) resume ((before.byteLength, line) :: starts)
      = findFrom scan (before ++ rest) resume starts := by
  have hscan : scan (before ++ rest) before.byteLength = .ok none := h
  rw [findFrom, if_neg (Nat.not_lt.mpr hle), standIn_append, hscan]
  rfl

theorem findFrom_statement (hle : resume ≤ before.byteLength)
    (h : Agrees scan before (written ++ rest) (some (x, rest)))
    (hfound : findFrom scan (before ++ (written ++ rest)) (before ++ written).byteLength starts
      = .ok found) :
    findFrom scan (before ++ (written ++ rest)) resume ((before.byteLength, line) :: starts)
      = .ok (⟨⟨before.byteLength, (before ++ written).byteLength⟩, line, x⟩ :: found) := by
  obtain ⟨u, hu, hscan⟩ := h
  rw [← List.append_assoc] at hu
  obtain rfl := List.append_cancel_right hu
  rw [findFrom, if_neg (Nat.not_lt.mpr hle), standIn_append, hscan]
  show (do let found ← findFrom scan _ (before ++ written).byteLength starts; return _ :: found) = _
  rw [hfound]
  rfl

/-- The search finds what a visit finds. -/
theorem findFrom_visits (hscan : ∀ {before s}, Agrees scan before s (read s))
    {starts : List (Text × Text)} (hstarts : ∀ start ∈ starts, start.1 ++ start.2 = source)
    (h : Visits (fun t x rest => read t = some (x, rest)) resume starts found) :
    findFrom scan source resume
        (starts.map fun start => (start.1.byteLength, 1 + start.1.lineBreaks))
      = .ok found := by
  induction h with
  | done => rfl
  | covered hlt _ ih =>
      rw [List.forall_mem_cons] at hstarts
      rw [List.map_cons, findFrom_covered hlt]
      exact ih hstarts.2
  | @nothing resume before t starts found hle hno _ ih =>
      rw [List.forall_mem_cons] at hstarts
      obtain ⟨rfl, hstarts⟩ := hstarts
      have hnone : Agrees scan before t none := by
        have hread : read t = none := Option.eq_none_iff_forall_ne_some.mpr fun found =>
          hno found.1 found.2
        rw [← hread]
        exact hscan
      rw [List.map_cons, findFrom_nothing hle hnone]
      exact ih hstarts
  | @statement resume before written rest x starts found hle hread _ ih =>
      rw [List.forall_mem_cons] at hstarts
      obtain ⟨rfl, hstarts⟩ := hstarts
      have hsome : Agrees scan before (written ++ rest) (some (x, rest)) := by
        rw [← hread]
        exact hscan
      rw [List.map_cons]
      exact findFrom_statement hle hsome (ih hstarts)

/-- A search slips nowhere, and it finds the located statements of the cut. -/
theorem find_eq (hscan : ∀ {before s}, Agrees scan before s (read s))
    (hread : Piece.Consumes read) (source : Text) :
    find scan source = .ok (Piece.locate (Piece.ofSource read source)) := by
  rw [find, lineOffsets_eq]
  refine findFrom_visits hscan (fun start hstart => ?_) (visits_locate Iff.rfl hread source)
  rw [lineStarts] at hstart
  split at hstart
  · next hnil =>
      rw [List.mem_singleton.mp hstart, hnil]
      rfl
  · exact append_of_mem_lineStartsFrom hstart

end Scan

end RequireForm

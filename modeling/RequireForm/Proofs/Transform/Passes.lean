import RequireForm.Proofs.Source.Cut
import RequireForm.Transform.Basic

/-!
# Passes — what either pass makes of pieces put together

  1. `Piece.statements`: the statements of pieces in a row and of pieces under each other.
  2. `importPass`, `exportPass`: their texts. The second pass numbers its stars, so what stands
     behind is told how many there were.
-/

namespace RequireForm

open Text

namespace Piece

variable {α : Type}

@[simp] theorem statements_append (ps qs : List (Piece α)) :
    statements (ps ++ qs) = statements ps ++ statements qs := List.filterMap_append

@[simp] theorem statements_kept (t : Text) : statements (t.map (@kept α)) = [] := by
  induction t with
  | nil => rfl
  | cons c t ih => exact ih

@[simp] theorem statements_cons_kept (c : Char) (ps : List (Piece α)) :
    statements (.kept c :: ps) = statements ps := rfl

@[simp] theorem statements_cons_statement (w : Text) (x : α) (ps : List (Piece α)) :
    statements (.statement w x :: ps) = x :: statements ps := rfl

theorem statements_joinLines (pss : List (List (Piece α))) :
    statements (joinLines pss) = pss.flatMap statements := by
  induction pss with
  | nil => rfl
  | cons ps pss ih =>
      cases pss with
      | nil => exact (List.append_nil _).symm
      | cons qs pss =>
          show statements (ps ++ .kept '\n' :: joinLines (qs :: pss)) = _
          rw [statements_append, statements_cons_kept, ih]
          rfl

end Piece

variable {r : PathRule}

/-! ## The first pass -/

theorem importPass_append (ps qs : List (Piece Import)) :
    importPass r (ps ++ qs) = importPass r ps ++ importPass r qs := by
  induction ps with
  | nil => rfl
  | cons p ps ih =>
      cases p with
      | kept c => exact congrArg (c :: ·) ih
      | statement written i =>
          show i.require r ++ importPass r (ps ++ qs) = _
          rw [ih, ← List.append_assoc]
          rfl

theorem importPass_kept (t : Text) : importPass r (t.map .kept) = t := by
  induction t with
  | nil => rfl
  | cons c t ih => exact congrArg (c :: ·) ih

theorem importPass_joinLines (pss : List (List (Piece Import))) :
    importPass r (Piece.joinLines pss) = join ['\n'] (pss.map (importPass r)) := by
  induction pss with
  | nil => rfl
  | cons ps pss ih =>
      cases pss with
      | nil => rfl
      | cons qs pss =>
          show importPass r (ps ++ .kept '\n' :: Piece.joinLines (qs :: pss)) = _
          rw [importPass_append, importPass, ih]
          exact (List.append_assoc _ ['\n'] _).symm

/-! ## The second pass -/

/-- The stars among pieces. -/
def stars (ps : List (Piece Export)) : Nat := (Piece.statements ps).countP Export.isStar

@[simp] theorem stars_kept (t : Text) : stars (t.map .kept) = 0 := by
  rw [stars, Piece.statements_kept]
  rfl

/-- What stands behind pieces goes on with the number of the next star. -/
theorem exportPass_append (n : Nat) (ps qs : List (Piece Export)) :
    exportPass r n (ps ++ qs) = exportPass r n ps ++ exportPass r (n + stars ps) qs := by
  induction ps generalizing n with
  | nil => rfl
  | cons p ps ih =>
      cases p with
      | kept c => exact congrArg (c :: ·) (ih n)
      | statement written e =>
          have hnext : (if e.isStar then n + 1 else n) + stars ps
              = n + stars (.statement written e :: ps) := by
            simp only [stars, Piece.statements_cons_statement, List.countP_cons]
            split
            · omega
            · omega
          show e.require r n ++ exportPass r _ (ps ++ qs) = _
          rw [ih, hnext, ← List.append_assoc]
          rfl

theorem exportPass_kept (n : Nat) (t : Text) : exportPass r n (t.map .kept) = t := by
  induction t with
  | nil => rfl
  | cons c t ih => exact congrArg (c :: ·) ih

end RequireForm

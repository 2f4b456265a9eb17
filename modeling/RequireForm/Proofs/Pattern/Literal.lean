import RequireForm.Pattern.Compiled

/-!
# Literal patterns — an escaped text is the pattern of its characters

    text       a     .     b
    escaped    a     \.    b
    step       3     2     1     0 (accept)

A step of the program of a text has the number of characters that are still to be read. With
every character read the number falls by one and the position grows by one, so the place where
a match would end stays the same on the way, and no two attempts share it.

  1. `read?_escape`: an escaped text is read as its characters, one after another.
  2. `compile?_escape`: its program, and its only group, the whole match.
  3. `Program.run_accepts`, `Program.run_dies`: what a thread finds.
-/

namespace RequireForm

namespace Pattern

variable {c : Char} {m s t w rest : Text} {f : Flags}

/-! ## Reading -/

theorem escape_cons (c : Char) (t : Text) :
    escape (c :: t) = (if isMeta c then ['\\', c] else [c]) ++ escape t := rfl

/-- What is special may be announced. -/
theorem Primitive.isEscapable_of_isMeta (h : isMeta c = true) : Primitive.isEscapable c = true := by
  have hall : "\\.+*?()|[]\x7b\x7d^$#&-~".toList.all Primitive.isEscapable = true := by decide
  exact List.all_eq_true.mp hall c (List.contains_iff_mem.mp h)

theorem Primitive.read?_of_not_isMeta (h : isMeta c = false) (s : Text) :
    Primitive.read? false (c :: s) = some (.literal (.verbatim c), s) := by
  unfold Primitive.read?
  split
  case h_1 heq => cases heq
  case h_6 heq =>
      obtain ⟨rfl, rfl⟩ := List.cons.inj heq
      rfl
  all_goals
    next heq =>
      obtain ⟨rfl, -⟩ := List.cons.inj heq
      exact absurd h (by decide)

theorem Primitive.read?_announced (h : isMeta c = true) (s : Text) :
    Primitive.read? false ('\\' :: c :: s) = some (.literal (.verbatim c), s) :=
  if_pos (isEscapable_of_isMeta h)

/-- The node of a character that stands for itself. -/
def Node.ofChar (c : Char) : Node := .literal (.verbatim c)

/-- Whatever a character is in a pattern, escaped it is a literal. -/
theorem Draft.step?_escaped {d : Draft} (hd : d.verbose = false) (c : Char) (s : Text) :
    d.step? ((if isMeta c then ['\\', c] else [c]) ++ s) = some (d.add (.ofChar c), s) := by
  by_cases h : isMeta c = true
  · rw [if_pos h]
    show (Primitive.read? d.verbose ('\\' :: c :: s)).map _ = _
    rw [hd, Primitive.read?_announced h]
    rfl
  · rw [Bool.not_eq_true] at h
    rw [if_neg (by simp [h])]
    show d.step? (c :: s) = _
    unfold Draft.step?
    split
    case h_9 =>
        rw [hd, Primitive.read?_of_not_isMeta h]
        rfl
    all_goals
      next heq =>
        obtain ⟨rfl, -⟩ := List.cons.inj heq
        exact absurd h (by decide)

theorem Draft.read?_escape {fuel : Nat} {d : Draft} (hd : d.verbose = false)
    (hfuel : (escape m).length < fuel) :
    d.read? fuel (escape m) = some { d with items := (m.map Node.ofChar).reverse ++ d.items } := by
  induction m generalizing fuel d with
  | nil =>
      obtain ⟨fuel, rfl⟩ := Nat.exists_eq_succ_of_ne_zero (Nat.ne_of_gt hfuel)
      show d.read? (fuel + 1) [] = some d
      rw [Draft.read?, hd, skipLayout_false]
  | cons c t ih =>
      obtain ⟨fuel, rfl⟩ := Nat.exists_eq_succ_of_ne_zero (Nat.ne_zero_of_lt hfuel)
      have hlength : (escape t).length < fuel := by
        rw [escape_cons, List.length_append] at hfuel
        have : 0 < (if isMeta c then ['\\', c] else [c]).length := by split <;> simp
        omega
      have hread : d.read? (fuel + 1) (escape (c :: t))
          = (d.step? (escape (c :: t))).bind fun x => Draft.read? fuel x.1 x.2 := by
        rw [Draft.read?, hd, skipLayout_false, escape_cons]
        split
        · next hnil => split at hnil <;> cases hnil
        · rfl
      rw [hread, escape_cons, step?_escaped hd]
      show (d.add (.ofChar c)).read? fuel (escape t) = _
      rw [ih (d := d.add (.ofChar c)) hd hlength, List.map_cons, List.reverse_cons,
        List.append_assoc]
      rfl

theorem Node.depth_ofChars (m : Text) : (Node.ofItems (m.map Node.ofChar)).depth ≤ 1 := by
  have hall : Node.depthOfAll (m.map Node.ofChar) = 0 := by
    induction m with
    | nil => rfl
    | cons c t ih =>
        rw [List.map_cons, Node.depthOfAll, ih]
        rfl
  match m with
  | [] => exact Nat.zero_le _
  | [_] => exact Nat.zero_le _
  | c :: d :: t => exact Nat.succ_le_succ (Nat.le_of_eq hall)

/-- Where no group has been opened and no branch has ended, the items are all there is. -/
theorem Draft.finish?_of_items {d : Draft} (houter : d.outer = []) (hbranches : d.branches = [])
    (hdepth : (Node.ofItems d.items.reverse).depth ≤ Node.maxDepth) :
    d.finish? = some (Node.ofItems d.items.reverse) := by
  have hbody : d.body = Node.ofItems d.items.reverse := by
    rw [Draft.body, hbranches]
    rfl
  rw [Draft.finish?, houter, hbody, if_pos]
  exact decide_eq_true hdepth

/-- An escaped text is read as its characters, one after another. -/
theorem read?_escape (m : Text) :
    read? (escape m) = some (Node.ofItems (m.map Node.ofChar), []) := by
  have hreverse : ((m.map Node.ofChar).reverse ++ []).reverse = m.map Node.ofChar := by simp
  have hdepth : (Node.ofItems (m.map Node.ofChar)).depth ≤ Node.maxDepth :=
    Nat.le_trans (Node.depth_ofChars m) (by decide)
  rw [read?, Draft.read?_escape (d := .empty) rfl (Nat.lt_succ_self _)]
  show Option.bind (Draft.finish? _) _ = _
  rw [Draft.finish?_of_items rfl rfl (by rwa [← hreverse] at hdepth)]
  show some (Node.ofItems ((m.map Node.ofChar).reverse ++ []).reverse, _) = _
  rw [hreverse]
  rfl

/-! ## Meaning and program -/

/-- The expression of characters one after another. -/
def Expr.ofText : Text → Expr
  | [] => .empty
  | [c] => .chars (.single c)
  | c :: t => .seq (.chars (.single c)) (ofText t)

theorem Expr.append_ofText (c : Char) (t : Text) :
    (Expr.chars (.single c)).append (ofText t) = ofText (c :: t) := by
  match t with
  | [] => rfl
  | [_] => rfl
  | _ :: _ :: _ => rfl

theorem Expr.lastGroup_ofText (m : Text) : (Expr.ofText m).lastGroup = 0 := by
  match m with
  | [] => rfl
  | [_] => rfl
  | _ :: d :: t => exact Nat.max_eq_zero_iff.mpr ⟨rfl, lastGroup_ofText (d :: t)⟩

/-- Where case counts, a character means itself. -/
theorem Node.expr?_ofChar (hcase : f.caseless = false) (c : Char) :
    (Node.ofChar c).expr? f = some (.chars (.single c), f) := by
  rw [Node.ofChar, Node.expr?, Literal.expr?, Literal.verbatim, Flags.fold, hcase]
  simp

theorem Node.expr?_ofChars (hcase : f.caseless = false) (m : Text) :
    (Node.ofItems (m.map Node.ofChar)).expr? f = some (Expr.ofText m, f) := by
  have hconcat (t : Text) : Node.concatExpr? f (t.map Node.ofChar) = some (Expr.ofText t, f) := by
    induction t with
    | nil => rfl
    | cons c t ih =>
        rw [List.map_cons, Node.concatExpr?, Node.expr?_ofChar hcase]
        show (Node.concatExpr? f _).bind _ = _
        rw [ih, ← Expr.append_ofText]
        rfl
  match m with
  | [] => rfl
  | [c] => exact Node.expr?_ofChar hcase c
  | c :: d :: t => exact hconcat (c :: d :: t)

/-- The steps of a text: each reads a character, and goes on with as many as are left. -/
def Program.stepsOf : Text → Steps
  | [] => #[.accept]
  | c :: t => (stepsOf t).push (.read (.single c) t.length)

/-- The program of a text. -/
def Program.ofText (m : Text) : Program := ⟨stepsOf m, m.length⟩

namespace Program

@[simp] theorem size_stepsOf (m : Text) : (stepsOf m).size = m.length + 1 := by
  induction m with
  | nil => rfl
  | cons c t ih => rw [stepsOf, Array.size_push, ih, List.length_cons]

theorem stepsOf_zero (m : Text) : (stepsOf m)[0]? = some .accept := by
  induction m with
  | nil => rfl
  | cons c t ih =>
      have hpos : 0 < (stepsOf t).size := by simp
      rw [stepsOf, Array.getElem?_push_lt hpos]
      rwa [Array.getElem?_eq_getElem hpos] at ih

theorem stepsOf_of_suffix (h : c :: w <:+ m) :
    (stepsOf m)[w.length + 1]? = some (.read (.single c) w.length) := by
  induction m with
  | nil => exact absurd (List.suffix_nil.mp h) (List.cons_ne_nil _ _)
  | cons d t ih =>
      rcases List.suffix_cons_iff.mp h with heq | hsuffix
      · obtain ⟨rfl, rfl⟩ := List.cons.inj heq
        rw [stepsOf, ← size_stepsOf, Array.getElem?_push_size]
      · have hlt : w.length + 1 < (stepsOf t).size := by
          have := hsuffix.length_le
          simp at this ⊢
          omega
        have hstep := ih hsuffix
        rw [Array.getElem?_eq_getElem hlt] at hstep
        rw [stepsOf, Array.getElem?_push_lt hlt, hstep]

theorem lay_ofText (m : Text) : (Expr.ofText m).lay 0 #[.accept] = (m.length, stepsOf m) := by
  match m with
  | [] => rfl
  | [c] => rfl
  | c :: d :: t =>
      show (Expr.chars (.single c)).lay ((Expr.ofText (d :: t)).lay 0 #[.accept]).1
        ((Expr.ofText (d :: t)).lay 0 #[.accept]).2 = _
      rw [lay_ofText (d :: t)]
      show ((stepsOf (d :: t)).size, stepsOf (c :: d :: t)) = _
      rw [size_stepsOf, List.length_cons (a := c)]

theorem ofExpr_ofText (m : Text) : ofExpr (Expr.ofText m) = ofText m := by
  show Program.mk ((Expr.ofText m).lay 0 #[.accept]).2 ((Expr.ofText m).lay 0 #[.accept]).1 = _
  rw [lay_ofText]
  rfl

end Program

/-- The escaped text compiles to the program of its characters, if that is not too large. -/
theorem compile?_escape (hcase : f.caseless = false) (m : Text) :
    compile? f (escape m)
      = if (Expr.ofText m).fits then some ⟨escape m, .ofText m, ⟨0, []⟩⟩ else none := by
  rw [compile?, read?_escape]
  show ((Node.ofItems (m.map Node.ofChar)).expr? f).bind _ = _
  rw [Node.expr?_ofChars hcase]
  show (if (Expr.ofText m).fits then _ else none) = _
  rw [Program.ofExpr_ofText, Expr.lastGroup_ofText]

/-! ## Runs -/

namespace Program

/-- A step and a position are told apart by their number. -/
theorem key_inj {size i j k l : Nat} (hi : i < size) (hk : k < size)
    (h : i + size * j = k + size * l) : i = k ∧ j = l := by
  have hmod : i = k := by
    have := congrArg (· % size) h
    simpa [Nat.add_mul_mod_self_left, Nat.mod_eq_of_lt, hi, hk] using this
  subst hmod
  exact ⟨rfl, Nat.eq_of_mul_eq_mul_left (Nat.zero_lt_of_lt hi) (Nat.add_left_cancel h)⟩

/-- What has been tried on behalf of a text of length `n`: all would have ended before `goal`, or
    there, with more than `left` still to be read. -/
def Behind (n : Nat) (tried : Tried) (goal left : Nat) : Prop :=
  ∀ step position, step ≤ n → tried.contains (step + (n + 1) * position) = true →
    step + position < goal ∨ step + position = goal ∧ left < step

namespace Behind

variable {n goal left position : Nat} {tried : Tried}

theorem empty : Behind n ∅ goal left := by
  intro step position _ h
  simp at h

/-- The step that is to be taken has not been tried here. -/
theorem fresh (h : Behind n tried (left + position) left) (hleft : left ≤ n) :
    tried.contains (left + (n + 1) * position) = false := by
  rw [Bool.eq_false_iff]
  intro hmem
  rcases h left position hleft hmem with hlt | ⟨-, hlt⟩ <;> omega

/-- With a step taken, less is left to read. -/
theorem insert (h : Behind n tried (left + 1 + position) (left + 1)) (hleft : left + 1 ≤ n) :
    Behind n (tried.insert (left + 1 + (n + 1) * position)) (left + 1 + position) left := by
  intro step place hstep hmem
  rw [Std.HashSet.contains_insert, Bool.or_eq_true, beq_iff_eq] at hmem
  rcases hmem with heq | hmem
  · obtain ⟨rfl, rfl⟩ := key_inj (by omega) (by omega) heq
    exact .inr ⟨rfl, Nat.lt_succ_self _⟩
  · rcases h step place hstep hmem with hlt | ⟨heq, hlt⟩
    · exact .inl hlt
    · exact .inr ⟨heq, by omega⟩

/-- Where an attempt has failed, the next one starts one character further. -/
theorem next {left' : Nat} (h : Behind n tried goal left) : Behind n tried (goal + 1) left' := by
  intro step place hstep hmem
  rcases h step place hstep hmem with hlt | ⟨heq, -⟩ <;> exact .inl (by omega)

end Behind

variable {fuel : Nat} {tried : Tried}

theorem key_ofText (m : Text) (t : Thread) :
    (ofText m).key t = t.step + (m.length + 1) * t.place.position := by
  rw [key, show (ofText m).steps = stepsOf m from rfl, size_stepsOf]

@[simp] theorem run_nil (p : Program) : p.run fuel tried [] = (none, tried) := by
  cases fuel <;> rfl

/-- The threads that are left when a character is to be read. -/
theorem take_read {t : Thread} {d : Char} (h : t.place.rest = d :: rest) (next : Nat) :
    t.take (.read (.single c) next)
      = if d = c then [⟨next, ⟨t.place.position + 1, some d, rest⟩, t.marks⟩] else [] := by
  rw [Thread.take, h]
  exact ite_congr (propext (CharSet.contains_single c d)) (fun _ => rfl) fun _ => rfl

/-- One step: a thread that has a character and more to read tries it. -/
theorem run_step (place : Place) (marks : List (Nat × Nat)) (hw : c :: w <:+ m)
    (htried : Behind m.length tried ((c :: w).length + place.position) (c :: w).length) :
    let t : Thread := ⟨(c :: w).length, place, marks⟩
    (ofText m).run (fuel + 1) tried [t]
      = (ofText m).run fuel (tried.insert (w.length + 1 + (m.length + 1) * place.position))
          (t.take (.read (.single c) w.length)) := by
  intro t
  have hfresh := htried.fresh hw.length_le
  have hstep : (ofText m).steps[t.step]? = some (.read (.single c) w.length) :=
    stepsOf_of_suffix hw
  rw [run, key_ofText, if_neg (ne_true_of_eq_false hfresh), hstep]
  show run _ fuel _ (_ ++ []) = _
  rw [List.append_nil]
  rfl

/-- A thread accepts where the text goes on with what it has to read. -/
theorem run_accepts (place : Place) (marks : List (Nat × Nat)) (hw : w <:+ m)
    (hfuel : w.length < fuel)
    (htried : Behind m.length tried (w.length + place.position) w.length)
    (h : w <+: place.rest) :
    ∃ t, ((ofText m).run fuel tried [⟨w.length, place, marks⟩]).1 = some t ∧
      t.place.position = place.position + w.length := by
  induction w generalizing fuel tried place with
  | nil =>
      obtain ⟨fuel, rfl⟩ := Nat.exists_eq_succ_of_ne_zero (Nat.ne_zero_of_lt hfuel)
      have hfresh := htried.fresh (Nat.zero_le _)
      have hstep : (ofText m).steps[([] : Text).length]? = some .accept := stepsOf_zero m
      refine ⟨⟨0, place, marks⟩, ?_, rfl⟩
      rw [run, key_ofText, if_neg (ne_true_of_eq_false hfresh), hstep]
      rfl
  | cons c w ih =>
      obtain ⟨fuel, rfl⟩ := Nat.exists_eq_succ_of_ne_zero (Nat.ne_zero_of_lt hfuel)
      obtain ⟨rest, hrest⟩ := h
      have hgoal : w.length + (place.position + 1) = (c :: w).length + place.position := by
        simp only [List.length_cons]
        omega
      obtain ⟨t, ht, hposition⟩ := ih ⟨place.position + 1, some c, w ++ rest⟩
        ((List.suffix_cons c w).trans hw) (Nat.lt_of_succ_lt_succ hfuel)
        (by rw [hgoal]; exact htried.insert hw.length_le) ⟨rest, rfl⟩
      rw [run_step place marks hw htried, take_read hrest.symm, if_pos rfl]
      refine ⟨t, ht, ?_⟩
      rw [hposition, List.length_cons]
      show place.position + 1 + w.length = _
      omega

/-- A thread dies where the text does not, and what it has tried would have ended there. -/
theorem run_dies (place : Place) (marks : List (Nat × Nat)) (hw : w <:+ m)
    (hfuel : w.length < fuel)
    (htried : Behind m.length tried (w.length + place.position) w.length)
    (h : ¬ w <+: place.rest) :
    ∃ tried', (ofText m).run fuel tried [⟨w.length, place, marks⟩] = (none, tried') ∧
      Behind m.length tried' (w.length + place.position + 1) m.length := by
  induction w generalizing fuel tried place with
  | nil => exact absurd List.nil_prefix h
  | cons c w ih =>
      obtain ⟨fuel, rfl⟩ := Nat.exists_eq_succ_of_ne_zero (Nat.ne_zero_of_lt hfuel)
      have hbehind := htried.insert hw.length_le
      rw [run_step place marks hw htried]
      cases hrest : place.rest with
      | nil =>
          rw [Thread.take, hrest]
          exact ⟨_, run_nil _, hbehind.next⟩
      | cons d rest =>
          rw [take_read hrest]
          by_cases hd : d = c
          · subst hd
            rw [hrest, List.prefix_cons_inj] at h
            have hgoal : w.length + (place.position + 1) = (d :: w).length + place.position := by
              simp only [List.length_cons]
              omega
            obtain ⟨tried', hrun, htried'⟩ := ih ⟨place.position + 1, some d, rest⟩
              ((List.suffix_cons d w).trans hw) (Nat.lt_of_succ_lt_succ hfuel)
              (by rw [hgoal]; exact hbehind) h
            rw [hgoal] at htried'
            rw [if_pos rfl]
            exact ⟨tried', hrun, htried'⟩
          · rw [if_neg hd]
            exact ⟨_, run_nil _, hbehind.next⟩

end Program

end Pattern

end RequireForm

/-
# Reading a tree off its text

A name holds letters and numbers only, so the comma or the parenthesis behind it shows where it
ends; so does the parenthesis behind a value.  Every node is written by its own word.  From the
text of a tree, with anything behind it, one can therefore tell both the tree, but for its places,
and where its text ends.  Main statements:

* `Expr.shown_append_inj`, `Stmt.shown_append_inj` : the text tells the tree and where it ends;
* `Tree.text_eq_iff` : trees whose names are plain have the same text if only places differ;
* `text_identifies_tree` : and so have the trees of accepted sources, whose names are plain.
-/
import MiniPascal.Proofs.Grammar.Names
import MiniPascal.Proofs.Places.Trees
import MiniPascal.Proofs.Text.Decimals
import MiniPascal.Proofs.Text.Trees

namespace MiniPascal

/-! ## Parts of a text -/

/-- The name holds letters and numbers only. -/
def Plain (name : String) : Prop := ∀ c ∈ name.toList, isWordPart c = true

/-- A word is a plain name. -/
theorem plain_of_isWord {name : String} (h : IsWord name.toList) : Plain name := by
  obtain ⟨letter, tail, htext, hletter, htail⟩ := h
  intro c hc
  rw [htext] at hc
  rcases List.mem_cons.1 hc with rfl | hc
  · rw [isWordPart, hletter, Bool.true_or]
  · exact htail c hc

section

variable {p : Char → Bool} {run other x y : List Char}

/-- A run of characters of a class ends where the class ends. -/
theorem run_append_inj (hrun : ∀ c ∈ run, p c = true) (hother : ∀ c ∈ other, p c = true)
    (hx : Stops p x) (hy : Stops p y) (h : run ++ x = other ++ y) : run = other ∧ x = y := by
  constructor
  · rw [← takeWhile_append_of_stops hrun hx, h, takeWhile_append_of_stops hother hy]
  · rw [← dropWhile_append_of_stops hrun hx, h, dropWhile_append_of_stops hother hy]

/-- A plain name ends in front of a character that is no part of a word. -/
theorem Plain.append_inj {name name' : String} (hname : Plain name) (hname' : Plain name')
    {c : Char} (hc : isWordPart c = false)
    (h : name.toList ++ c :: x = name'.toList ++ c :: y) : name = name' ∧ x = y := by
  have hstops : ∀ z, Stops isWordPart (c :: z) := by
    rintro z d hd
    rwa [← Option.some.inj hd]
  obtain ⟨hnames, hrest⟩ := run_append_inj hname hname' (hstops x) (hstops y) h
  exact ⟨String.toList_inj.1 hnames, (List.cons.inj hrest).2⟩

/-- The text of a value ends in front of a parenthesis. -/
theorem Value.text_append_inj {v w : Value}
    (h : v.text.toList ++ ')' :: x = w.text.toList ++ ')' :: y) : v = w ∧ x = y := by
  have hstops : ∀ z, Stops (fun c => c == '-' || c.isDigit) (')' :: z) := by
    rintro z d hd
    rw [← Option.some.inj hd]
    rfl
  have hrun : ∀ u : Value, ∀ c ∈ u.text.toList, (c == '-' || c.isDigit) = true := by
    intro u c hc
    simpa using u.char_of_mem_text hc
  obtain ⟨htexts, hrest⟩ := run_append_inj (hrun v) (hrun w) (hstops x) (hstops y) h
  exact ⟨Value.text_injective (String.toList_inj.1 htexts), (List.cons.inj hrest).2⟩

theorem Sign.text_append_inj {sign sign' : Sign}
    (h : sign.text.toList ++ x = sign'.text.toList ++ y) : sign = sign' ∧ x = y := by
  cases sign <;> cases sign' <;> simp_all [Sign.text]

theorem Operator.text_append_inj {op op' : Operator}
    (h : op.text.toList ++ x = op'.text.toList ++ y) : op = op' ∧ x = y := by
  cases op <;> cases op' <;> simp_all [Operator.text]

end

/-! ## Expressions -/

/-- **The text tells the expression and where it ends**, if its names are plain. -/
theorem Expr.shown_append_inj {e d : Expr} (he : ∀ name ∈ e.names, Plain name)
    (hd : ∀ name ∈ d.names, Plain name) {x y : List Char}
    (h : e.shown.toList ++ x = d.shown.toList ++ y) :
    e.relocate (fun _ => 0) = d.relocate (fun _ => 0) ∧ x = y := by
  induction e generalizing d x y with
  | number value span =>
    cases d with
    | number value' span' =>
      simp only [shown_number, String.toList_append, List.append_assoc] at h
      obtain ⟨rfl, rfl⟩ := Value.text_append_inj (List.append_cancel_left h)
      exact ⟨rfl, rfl⟩
    | _ => simp at h
  | var v =>
    cases d with
    | var w =>
      simp only [shown_var, String.toList_append, List.append_assoc] at h
      have hv : Plain v.name := he _ List.mem_cons_self
      have hw : Plain w.name := hd _ List.mem_cons_self
      obtain ⟨hnames, rfl⟩ := hv.append_inj hw (by decide) (List.append_cancel_left h)
      refine ⟨?_, rfl⟩
      rw [relocate, relocate, Variable.relocate, hnames]
      rfl
    | _ => simp at h
  | unary sign operand span ih =>
    cases d with
    | unary sign' operand' span' =>
      simp only [shown_unary, String.toList_append, List.append_assoc] at h
      obtain ⟨rfl, hrest⟩ := Sign.text_append_inj (List.append_cancel_left h)
      obtain ⟨hoperands, hrest⟩ := ih (d := operand') he hd (List.append_cancel_left hrest)
      refine ⟨?_, List.append_cancel_left hrest⟩
      rw [relocate, relocate, hoperands]
      rfl
    | _ => simp at h
  | binary op left right span ihleft ihright =>
    cases d with
    | binary op' left' right' span' =>
      simp only [shown_binary, String.toList_append, List.append_assoc] at h
      simp only [names_binary, List.mem_append, or_imp, forall_and] at he hd
      obtain ⟨rfl, hrest⟩ := Operator.text_append_inj (List.append_cancel_left h)
      obtain ⟨hlefts, hrest⟩ := ihleft he.1 hd.1 (List.append_cancel_left hrest)
      obtain ⟨hrights, hrest⟩ := ihright he.2 hd.2 (List.append_cancel_left hrest)
      refine ⟨?_, List.append_cancel_left hrest⟩
      rw [relocate, relocate, hlefts, hrights]
      rfl
    | _ => simp at h

/-! ## Statements -/

namespace Stmt

/-- The text of a statement does not start with a bracket. -/
theorem shown_ne_bracket (s : Stmt) (x y : List Char) :
    s.shown.toList ++ x ≠ "]".toList ++ y := by
  cases s <;> simp

mutual

/-- **The text tells the statement and where it ends**, if its names are plain. -/
theorem shown_append_inj {s t : Stmt} (hs : ∀ a ∈ s.assignments, ∀ name ∈ a.names, Plain name)
    (ht : ∀ a ∈ t.assignments, ∀ name ∈ a.names, Plain name) {x y : List Char}
    (h : s.shown.toList ++ x = t.shown.toList ++ y) :
    s.relocate (fun _ => 0) = t.relocate (fun _ => 0) ∧ x = y := by
  cases s with
  | assignment target value span =>
    cases t with
    | assignment target' value' span' =>
      simp only [shown_assignment, String.toList_append, List.append_assoc] at h
      obtain ⟨htarget, hvalue⟩ := List.forall_mem_cons.1 (hs _ List.mem_cons_self)
      obtain ⟨htarget', hvalue'⟩ := List.forall_mem_cons.1 (ht _ List.mem_cons_self)
      obtain ⟨hnames, hrest⟩ :=
        htarget.append_inj htarget' (by decide) (List.append_cancel_left h)
      obtain ⟨hvalues, hrest⟩ :=
        Expr.shown_append_inj hvalue hvalue' (List.cons.inj hrest).2
      refine ⟨?_, List.append_cancel_left hrest⟩
      rw [relocate, relocate, hvalues, Variable.relocate, hnames]
      rfl
    | _ => simp at h
  | compound body span =>
    cases t with
    | compound body' span' =>
      simp only [shown_compound, String.toList_append, List.append_assoc] at h
      obtain ⟨hbodies, rfl⟩ := shownList_append_inj (Or.inl rfl) hs ht (List.append_cancel_left h)
      refine ⟨?_, rfl⟩
      rw [relocate, relocate, hbodies]
      rfl
    | _ => simp at h
  | empty span =>
    cases t with
    | empty span' => exact ⟨rfl, List.append_cancel_left h⟩
    | _ => simp at h
termination_by structural s

theorem shownList_append_inj {separator : String} (hseparator : separator = "" ∨ separator = ", ")
    {body body' : List Stmt} (hbody : ∀ a ∈ assignmentsList body, ∀ name ∈ a.names, Plain name)
    (hbody' : ∀ a ∈ assignmentsList body', ∀ name ∈ a.names, Plain name) {x y : List Char}
    (h : (shownList separator body).toList ++ ("]".toList ++ x) =
      (shownList separator body').toList ++ ("]".toList ++ y)) :
    relocateList (fun _ => 0) body = relocateList (fun _ => 0) body' ∧ x = y := by
  have hclosed : ∀ (s : Stmt) (x y : List Char),
      separator.toList ++ (s.shown.toList ++ x) ≠ "]".toList ++ y := by
    rcases hseparator with rfl | rfl
    · exact shown_ne_bracket
    · simp
  cases body with
  | nil =>
    cases body' with
    | nil => exact ⟨rfl, List.append_cancel_left h⟩
    | cons t rest =>
      simp only [shownList_cons, String.toList_append, List.append_assoc] at h
      exact absurd h.symm (hclosed t _ _)
  | cons s rest =>
    cases body' with
    | nil =>
      simp only [shownList_cons, String.toList_append, List.append_assoc] at h
      exact absurd h (hclosed s _ _)
    | cons t rest' =>
      simp only [shownList_cons, String.toList_append, List.append_assoc] at h
      simp only [assignmentsList, List.mem_append, or_imp, forall_and] at hbody hbody'
      obtain ⟨hfirsts, hrest⟩ := shown_append_inj hbody.1 hbody'.1 (List.append_cancel_left h)
      obtain ⟨hrests, rfl⟩ := shownList_append_inj (Or.inr rfl) hbody.2 hbody'.2 hrest
      refine ⟨?_, rfl⟩
      rw [relocateList, relocateList, hfirsts, hrests]
termination_by structural body

end

end Stmt

/-! ## Whole trees -/

/-- An expression is not written like a statement. -/
theorem Expr.shown_ne_shown (e : Expr) (s : Stmt) : e.shown.toList ≠ s.shown.toList := by
  cases e <;> cases s <;> simp

/-- **Trees whose names are plain have the same text only if they differ in nothing but places.** -/
theorem Tree.text_eq_iff {tree other : Tree} (htree : ∀ name ∈ tree.names, Plain name)
    (hother : ∀ name ∈ other.names, Plain name) :
    tree.text = other.text ↔ tree.unplaced = other.unplaced := by
  refine ⟨fun h => ?_, Tree.text_of_unplaced⟩
  rw [Tree.text_eq, Tree.text_eq, ← String.toList_inj] at h
  cases tree with
  | expr e =>
    cases other with
    | expr d =>
      have happend : e.shown.toList ++ [] = d.shown.toList ++ [] := congrArg (· ++ []) h
      exact congrArg Tree.expr (Expr.shown_append_inj htree hother happend).1
    | stmt t => exact absurd h (e.shown_ne_shown t)
  | stmt s =>
    cases other with
    | expr d => exact absurd h.symm (d.shown_ne_shown s)
    | stmt t =>
      have happend : s.shown.toList ++ [] = t.shown.toList ++ [] := congrArg (· ++ []) h
      simp only [names, List.mem_flatMap, forall_exists_index, and_imp] at htree hother
      refine congrArg Tree.stmt (Stmt.shown_append_inj ?_ ?_ happend).1
      · exact fun a ha name hname => htree name a ha hname
      · exact fun a ha name hname => hother name a ha hname

/-- A name that holds a parenthesis and a comma would hide where it ends. -/
example :
    let sum (left right : String) : Tree :=
      .expr (.binary .add (.var ⟨left, ⟨0, 0⟩⟩) (.var ⟨right, ⟨0, 0⟩⟩) ⟨0, 0⟩)
    (sum "a), Var(b" "c").shown = (sum "a" "b), Var(c").shown ∧
      (sum "a), Var(b" "c").unplaced ≠ (sum "a" "b), Var(c").unplaced := by
  decide

/-- **The text identifies the tree.**  The trees of two accepted sources have the same text if and
only if they differ in nothing but their places, whatever the modes and limits; and their names
hold letters and numbers only. -/
theorem text_identifies_tree {source source' : String} {mode mode' : Mode} {limit limit' : Nat}
    {tree tree' : Tree} (h : parse source mode limit = .ok tree)
    (h' : parse source' mode' limit' = .ok tree') :
    (tree.text = tree'.text ↔ tree.unplaced = tree'.unplaced) ∧
      ∀ name ∈ tree.names ++ tree'.names, Plain name := by
  have hplain : ∀ name ∈ tree.names, Plain name :=
    fun _ hname => plain_of_isWord (isWord_of_mem_names h hname)
  have hplain' : ∀ name ∈ tree'.names, Plain name :=
    fun _ hname => plain_of_isWord (isWord_of_mem_names h' hname)
  exact ⟨Tree.text_eq_iff hplain hplain', List.forall_mem_append.2 ⟨hplain, hplain'⟩⟩

/-- The two sums have the same text, and so the same tree but for its places. -/
theorem text_identifies_tree_respaced :
    ∃ tree tree', parse "1+ß" .expression 0 = .ok tree ∧
      parse "( 1 ) + ß" .expression 1 = .ok tree' ∧ tree.text = tree'.text ∧ tree ≠ tree' ∧
      tree.unplaced = tree'.unplaced ∧ tree.names = ["ß"] ∧ Plain "ß" := by
  have h : parse "1+ß" .expression 0 = .ok (.expr (.binary .add
      (.number ⟨1, by decide, by decide⟩ ⟨0, 1⟩) (.var ⟨"ß", ⟨2, 3⟩⟩) ⟨0, 3⟩)) := by
    decide +kernel
  have h' : parse "( 1 ) + ß" .expression 1 = .ok (.expr (.binary .add
      (.number ⟨1, by decide, by decide⟩ ⟨2, 3⟩) (.var ⟨"ß", ⟨8, 9⟩⟩) ⟨2, 9⟩)) := by
    decide +kernel
  obtain ⟨hiff, hnames⟩ := text_identifies_tree h h'
  refine ⟨_, _, h, h', ?_, by decide, hiff.1 ?_, rfl, hnames "ß" (by decide)⟩
  · rw [Tree.text_eq, Tree.text_eq]
    rfl
  · rw [Tree.text_eq, Tree.text_eq]
    rfl

end MiniPascal

/-
# How deep calls nest

To evaluate, run or write a tree is to make calls for its parts.  A node with a sign calls for its
operand, an assignment for its value and a block for its statements.  A node with an operator calls
for the operand at the bottom of its left spine, and then for the operands to the right along the
spine, but not for the nodes of the spine below it, so that a chain nests no deeper for being long.
The call depth of a tree is the number of calls that are open at once.

The work is defined here a second time, call by call, with a bound on the number of calls that may
be open.  Main statements:

* `Expr.callDepth_le_iff` : the call depth of a node with an operator, by its spine;
* `Expr.evaluateWithin_eq`, `Tree.evaluateWithin_eq` : with room for the call depth, the calls give
  the value of an expression and the result of a tree;
* `Expr.evaluateWithin_eq_ok_iff` : with less room they come to no value;
* `Expr.textWithin_eq`, `Tree.textWithin_eq` : the text takes exactly that room.
-/
import MiniPascal.Proofs.Evaluation.Spines
import MiniPascal.Proofs.Text.Trees

namespace MiniPascal

/-! ## Call depth -/

namespace Expr

mutual

/-- The number of calls that are open at once when work is called for on the expression. -/
def callDepth : Expr → Nat
  | number .. => 1
  | var _ => 1
  | unary _ operand _ => operand.callDepth + 1
  | binary _ left right _ => max left.spineDepth right.callDepth + 1

/-- The largest call depth among the operand at the bottom of the left spine and the operands to the
right along the spine. -/
def spineDepth : Expr → Nat
  | number .. => 1
  | var _ => 1
  | unary _ operand _ => operand.callDepth + 1
  | binary _ left right _ => max left.spineDepth right.callDepth

end

theorem callDepth_binary (op : Operator) (left right : Expr) (span : Span) :
    (binary op left right span).callDepth = (binary op left right span).spineDepth + 1 := rfl

theorem callDepth_pos (e : Expr) : 0 < e.callDepth := by
  cases e <;> exact Nat.succ_pos _

/-- Only the call for the top of a chain is not counted along its spine. -/
theorem callDepth_le (e : Expr) : e.callDepth ≤ e.spineDepth + 1 := by
  cases e with
  | binary op left right span => exact Nat.le_refl _
  | _ => exact Nat.le_succ _

theorem spineDepth_le (e : Expr) : e.spineDepth ≤ e.callDepth := by
  cases e with
  | binary op left right span => exact Nat.le_succ _
  | _ => exact Nat.le_refl _

/-- The depth along a spine is the least bound for the operands that hang on it. -/
theorem spineDepth_le_iff (e : Expr) {n : Nat} :
    e.spineDepth ≤ n ↔
      e.bottom.callDepth ≤ n ∧ ∀ link ∈ e.links, link.right.callDepth ≤ n := by
  induction e with
  | binary op left right span ihleft _ =>
    rw [spineDepth, Nat.max_le, ihleft, bottom, links, List.forall_mem_append,
      List.forall_mem_singleton, and_assoc]
  | _ => simp [spineDepth, bottom, callDepth, links]

/-- **The call depth of a node with an operator** is one more than the largest one along its
spine. -/
theorem callDepth_le_iff (op : Operator) (left right : Expr) (span : Span) {n : Nat} :
    (binary op left right span).callDepth ≤ n + 1 ↔
      left.bottom.callDepth ≤ n ∧
        ∀ link ∈ (binary op left right span).links, link.right.callDepth ≤ n := by
  rw [callDepth_binary, Nat.add_le_add_iff_right, spineDepth_le_iff, bottom]

end Expr

namespace Stmt

mutual

/-- The number of calls that are open at once when work is called for on the statement. -/
def callDepth : Stmt → Nat
  | assignment _ value _ => value.callDepth + 1
  | compound body _ => callDepthList body + 1
  | empty _ => 1

/-- The largest call depth among the statements. -/
def callDepthList : List Stmt → Nat
  | [] => 0
  | s :: rest => max s.callDepth (callDepthList rest)

end

theorem callDepth_pos (s : Stmt) : 0 < s.callDepth := by
  cases s <;> exact Nat.succ_pos _

theorem callDepthList_le_iff {body : List Stmt} {n : Nat} :
    callDepthList body ≤ n ↔ ∀ s ∈ body, s.callDepth ≤ n := by
  induction body with
  | nil => simp [callDepthList]
  | cons s rest ih => rw [callDepthList, Nat.max_le, ih, List.forall_mem_cons]

end Stmt

/-- The number of calls that are open at once when work is called for on the tree. -/
def Tree.callDepth : Tree → Nat
  | expr e => e.callDepth
  | stmt s => s.callDepth

/-! ## Evaluation, call by call -/

/-- A result or a fault, unless there is no room for a call on the way. -/
abbrev Framed (α : Type) := ExceptT Fault Option α

namespace Framed

variable {α β : Type}

/-- What is known without a call. -/
def known (result : Except Fault α) : Framed α := ExceptT.mk (some result)

/-- There is no room for a call. -/
def noRoom : Framed α := ExceptT.mk none

theorem known_bind (first : Except Fault α) (second : α → Except Fault β) :
    (known first >>= fun a => known (second a)) = known (first >>= second) := by
  cases first <;> rfl

theorem known_injective {first second : Except Fault α} (h : known first = known second) :
    first = second :=
  Option.some.inj h

/-- Two steps that give a value both do. -/
theorem exists_of_bind {first : Framed α} {second : α → Framed β} {b : β}
    (h : first >>= second = known (.ok b)) :
    ∃ a, first = known (.ok a) ∧ second a = known (.ok b) := by
  rcases first with _ | fault | a
  · cases h
  · cases h
  · exact ⟨a, rfl, h⟩

end Framed

namespace Expr

variable (env : Environment)

/-- Goes on from the value of what is to the left of a link, with a call for the operand to its
right. -/
def climbBy (call : Expr → Framed Value) (left : Value) (link : Link) : Framed Value := do
  let right ← call link.right
  .known (link.apply left right)

/-- The value of the expression, with room for so many calls, this one included. -/
def evaluateWithin : Nat → Expr → Framed Value
  | 0, _ => .noRoom
  | _ + 1, number value _ => .known (.ok value)
  | _ + 1, var v => .known (v.evaluate env)
  | frames + 1, unary sign operand span => do
    let value ← evaluateWithin frames operand
    .known (sign.apply span value)
  | frames + 1, binary op left right span => do
    -- The nodes of the spine below this one are gone through without a call.
    let first ← evaluateWithin frames left.bottom
    (binary op left right span).links.foldlM (climbBy (evaluateWithin frames)) first

/-- If the calls for the operands give their values, then climbing by calls climbs. -/
theorem foldlM_climbBy {call : Expr → Framed Value} {links : List Link}
    (h : ∀ link ∈ links, call link.right = .known (link.right.evaluate env)) (left : Value) :
    links.foldlM (climbBy call) left = .known (links.foldlM (climb env) left) := by
  induction links generalizing left with
  | nil => rfl
  | cons link rest ih =>
    rw [List.forall_mem_cons] at h
    have hstep : climbBy call left link = .known (climb env left link) := by
      rw [climbBy, h.1, Framed.known_bind]
      rfl
    rw [List.foldlM_cons, List.foldlM_cons, hstep, ← Framed.known_bind]
    exact bind_congr fun l => ih h.2 l

/-- **With room for the call depth, the calls give the value of the expression**, or its fault. -/
theorem evaluateWithin_eq {frames : Nat} {e : Expr} (h : e.callDepth ≤ frames) :
    evaluateWithin env frames e = .known (e.evaluate env) := by
  induction frames generalizing e with
  | zero => exact absurd e.callDepth_pos (Nat.not_lt.2 h)
  | succ frames ih =>
    cases e with
    | number value span => rw [evaluateWithin, evaluate_number]
    | var v => rw [evaluateWithin, evaluate_var]
    | unary sign operand span =>
      rw [evaluateWithin, evaluate_unary, ih (Nat.le_of_succ_le_succ h), Framed.known_bind]
    | binary op left right span =>
      obtain ⟨hbottom, hlinks⟩ := (callDepth_le_iff op left right span).1 h
      rw [evaluateWithin, evaluate_eq_foldlM, ih hbottom, ← Framed.known_bind, bottom]
      refine bind_congr fun first => foldlM_climbBy env (fun link hlink => ?_) first
      exact ih (hlinks link hlink)

/-- Links that have been climbed have called for all operands to their right. -/
theorem exists_value_of_foldlM_climbBy {call : Expr → Framed Value} {links : List Link}
    {left v : Value} (h : links.foldlM (climbBy call) left = .known (.ok v)) :
    ∀ link ∈ links, ∃ w, call link.right = .known (.ok w) := by
  induction links generalizing left with
  | nil =>
    intro link hlink
    cases hlink
  | cons link rest ih =>
    obtain ⟨l, hstep, hrest⟩ := Framed.exists_of_bind h
    obtain ⟨w, hright, -⟩ := Framed.exists_of_bind hstep
    rw [List.forall_mem_cons]
    exact ⟨⟨w, hright⟩, ih hrest⟩

/-- **An evaluation that comes to a value takes exactly the room of the call depth.**  One that ends
with a fault may take less, as what is behind the fault is not called for. -/
theorem evaluateWithin_eq_ok_iff {frames : Nat} {e : Expr} {v : Value} :
    evaluateWithin env frames e = .known (.ok v) ↔
      e.callDepth ≤ frames ∧ e.evaluate env = .ok v := by
  have hdepth : ∀ {e v}, evaluateWithin env frames e = .known (.ok v) → e.callDepth ≤ frames := by
    induction frames with
    | zero =>
      intro e v h
      cases h
    | succ frames ih =>
      intro e v h
      cases e with
      | number value span => exact Nat.le_add_left 1 frames
      | var v => exact Nat.le_add_left 1 frames
      | unary sign operand span =>
        obtain ⟨w, hoperand, -⟩ := Framed.exists_of_bind h
        exact Nat.succ_le_succ (ih hoperand)
      | binary op left right span =>
        obtain ⟨first, hbottom, hchain⟩ := Framed.exists_of_bind h
        rw [callDepth_le_iff]
        refine ⟨ih hbottom, fun link hlink => ?_⟩
        obtain ⟨w, hright⟩ := exists_value_of_foldlM_climbBy hchain link hlink
        exact ih hright
  constructor
  · intro h
    have hle := hdepth h
    rw [evaluateWithin_eq env hle] at h
    exact ⟨hle, Framed.known_injective h⟩
  · rintro ⟨hle, hvalue⟩
    rw [evaluateWithin_eq env hle, hvalue]

end Expr

namespace Stmt

/-- Runs statements one after another by calls, up to the first fault. -/
def executeListBy (call : Environment → Stmt → Option (Environment × Option Fault))
    (env : Environment) : List Stmt → Option (Environment × Option Fault)
  | [] => some (env, none)
  | s :: rest => do
    match ← call env s with
    | (after, none) => executeListBy call after rest
    | (after, some fault) => some (after, some fault)

/-- What a run of the statement leaves behind, with room for so many calls, this one included. -/
def executeWithin : Nat → Environment → Stmt → Option (Environment × Option Fault)
  | 0, _, _ => none
  | frames + 1, env, assignment target value _ => do
    match ← (value.evaluateWithin env frames).run with
    | .ok v => some (env.assign target.name v, none)
    | .error fault => some (env, some fault)
  | frames + 1, env, compound body _ => executeListBy (executeWithin frames) env body
  | _ + 1, env, empty _ => some (env, none)

/-- If the calls for the statements run them, then they are run one after another. -/
theorem executeListBy_eq {call : Environment → Stmt → Option (Environment × Option Fault)}
    {body : List Stmt} (h : ∀ s ∈ body, ∀ env, call env s = some (s.execute env))
    (env : Environment) : executeListBy call env body = some (executeList env body) := by
  induction body generalizing env with
  | nil => rfl
  | cons s rest ih =>
    rw [List.forall_mem_cons] at h
    rw [executeListBy, h.1 env, executeList]
    rcases s.execute env with ⟨after, _ | fault⟩
    · exact ih h.2 after
    · rfl

/-- **With room for the call depth, the calls run the statement.** -/
theorem executeWithin_eq {frames : Nat} {s : Stmt} (h : s.callDepth ≤ frames)
    (env : Environment) : executeWithin frames env s = some (s.execute env) := by
  induction frames generalizing s env with
  | zero => exact absurd s.callDepth_pos (Nat.not_lt.2 h)
  | succ frames ih =>
    cases s with
    | assignment target value span =>
      rw [executeWithin, value.evaluateWithin_eq env (Nat.le_of_succ_le_succ h), execute]
      cases value.evaluate env <;> rfl
    | compound body span =>
      have hbody := callDepthList_le_iff.1 (Nat.le_of_succ_le_succ h)
      exact executeListBy_eq (fun s hs => ih (hbody s hs)) env
    | empty span => rfl

end Stmt

namespace Tree

/-- The result of running the tree, with room for so many calls. -/
def evaluateWithin (frames : Nat) (env : Environment) :
    Tree → Option (Except Fault (Option Value) × Environment)
  | expr e => do
    let result ← (e.evaluateWithin env frames).run
    some (result.map some, env)
  | stmt s => do
    match ← s.executeWithin frames env with
    | (after, none) => some (.ok none, after)
    | (after, some fault) => some (.error fault, after)

/-- **With room for the call depth, the calls give the result of the tree.** -/
theorem evaluateWithin_eq {frames : Nat} {tree : Tree} (h : tree.callDepth ≤ frames)
    (env : Environment) : tree.evaluateWithin frames env = some (tree.evaluate env) := by
  cases tree with
  | expr e =>
    rw [evaluateWithin, e.evaluateWithin_eq env h]
    rfl
  | stmt s =>
    rw [evaluateWithin, s.executeWithin_eq h, evaluate]
    rcases s.execute env with ⟨after, _ | fault⟩ <;> rfl

end Tree

/-! ## Texts, call by call -/

/-- One more call needs room for one more, and what it adds to the text needs none. -/
theorem bind_room {depth frames : Nat} {text : String} (add : String → String) :
    ((if depth ≤ frames then some text else none) >>= fun inner => some (add inner)) =
      if depth + 1 ≤ frames + 1 then some (add text) else none := by
  by_cases h : depth ≤ frames
  · rw [if_pos h, if_pos (Nat.succ_le_succ h)]
    rfl
  · rw [if_neg h, if_neg (mt Nat.le_of_succ_le_succ h)]
    rfl

namespace Expr

/-- What stands in front of the first operand of a chain: the names of its nodes, the last link
first. -/
def heads : List Link → String
  | [] => ""
  | link :: rest => heads rest ++ ("BinaryExpr(" ++ link.op.text ++ ", ")

/-- The text of a chain with one more link, from the text up to there and that of the operand to the
right. -/
def closed (out right : String) : String := out ++ ", " ++ right ++ ")"

theorem heads_append (links : List Link) (link : Link) :
    heads (links ++ [link]) = "BinaryExpr(" ++ link.op.text ++ ", " ++ heads links := by
  induction links with
  | nil => simp [heads]
  | cons head rest ih => rw [List.cons_append, heads, ih, heads, String.append_assoc]

/-- What stands in front of a chain stays in front. -/
theorem foldl_closed_append (front out : String) (links : List Link) :
    links.foldl (fun out link => closed out link.right.shown) (front ++ out) =
      front ++ links.foldl (fun out link => closed out link.right.shown) out := by
  induction links generalizing out with
  | nil => rfl
  | cons link rest ih =>
    rw [List.foldl_cons, List.foldl_cons, ← ih]
    simp only [closed, String.append_assoc]

/-- **The text of an expression, along its spine.** -/
theorem shown_eq_foldl (e : Expr) :
    e.shown = e.links.foldl (fun out link => closed out link.right.shown)
      (heads e.links ++ e.bottom.shown) := by
  induction e with
  | binary op left right span ihleft _ =>
    calc (binary op left right span).shown
        = "BinaryExpr(" ++ op.text ++ ", " ++ closed left.shown right.shown := by
          simp only [shown_binary, closed, String.append_assoc]
      _ = closed ("BinaryExpr(" ++ op.text ++ ", " ++ left.shown) right.shown := by
          simp only [closed, String.append_assoc]
      _ = _ := by
          rw [ihleft, ← foldl_closed_append, links, List.foldl_append, List.foldl_cons,
            List.foldl_nil, heads_append, bottom]
          simp only [String.append_assoc]
  | _ => exact String.empty_append.symm

/-- Goes on from the text up to a link, with a call for the operand to its right. -/
def closeBy (call : Expr → Option String) (out : String) (link : Link) : Option String := do
  let right ← call link.right
  some (closed out right)

/-- The text of the expression, with room for so many calls, this one included. -/
def textWithin : Nat → Expr → Option String
  | 0, _ => none
  | _ + 1, number value _ => some ("Num(" ++ value.text ++ ")")
  | _ + 1, var v => some ("Var(" ++ v.name ++ ")")
  | frames + 1, unary sign operand _ => do
    let inner ← textWithin frames operand
    some ("UnaryExpr(" ++ sign.text ++ ", " ++ inner ++ ")")
  | frames + 1, binary op left right span => do
    -- The names of all nodes of the spine are written in front of its bottom.
    let first ← textWithin frames left.bottom
    let chain := (binary op left right span).links
    chain.foldlM (closeBy (textWithin frames)) (heads chain ++ first)

/-- If a call gives the text of an operand as far as there is room, then so do the links. -/
theorem foldlM_closeBy {frames : Nat} {call : Expr → Option String}
    (hcall : ∀ e, call e = if e.callDepth ≤ frames then some e.shown else none)
    (links : List Link) (out : String) :
    links.foldlM (closeBy call) out =
      if ∀ link ∈ links, link.right.callDepth ≤ frames then
        some (links.foldl (fun out link => closed out link.right.shown) out)
      else none := by
  induction links generalizing out with
  | nil => simp
  | cons link rest ih =>
    rw [List.foldlM_cons, closeBy, hcall]
    by_cases hright : link.right.callDepth ≤ frames
    · rw [if_pos hright]
      refine (ih _).trans (if_congr ?_ rfl rfl)
      rw [List.forall_mem_cons, and_iff_right hright]
    · rw [if_neg hright, if_neg fun h => hright (h link List.mem_cons_self)]
      rfl

/-- **The text of an expression takes exactly the room of its call depth.** -/
theorem textWithin_eq (frames : Nat) (e : Expr) :
    e.textWithin frames = if e.callDepth ≤ frames then some e.shown else none := by
  induction frames generalizing e with
  | zero => rw [textWithin, if_neg (Nat.not_le.2 e.callDepth_pos)]
  | succ frames ih =>
    cases e with
    | number value span => simp [textWithin, callDepth]
    | var v => simp [textWithin, callDepth]
    | unary sign operand span =>
      rw [textWithin, ih operand]
      exact bind_room fun inner => "UnaryExpr(" ++ sign.text ++ ", " ++ inner ++ ")"
    | binary op left right span =>
      rw [textWithin, ih left.bottom]
      by_cases h : left.bottom.callDepth ≤ frames
      · rw [if_pos h]
        refine (foldlM_closeBy ih _ _).trans (if_congr ?_ ?_ rfl)
        · rw [callDepth_le_iff, and_iff_right h]
        · exact congrArg some (shown_eq_foldl (binary op left right span)).symm
      · rw [if_neg h, if_neg fun hdepth => h ((callDepth_le_iff op left right span).1 hdepth).1]
        rfl

end Expr

namespace Stmt

/-- The texts of statements by calls, a comma between any two and `separator` before the first. -/
def textListBy (call : Stmt → Option String) (separator : String) : List Stmt → Option String
  | [] => some ""
  | s :: rest => do
    let first ← call s
    let others ← textListBy call ", " rest
    some (separator ++ first ++ others)

/-- The text of the statement, with room for so many calls, this one included. -/
def textWithin : Nat → Stmt → Option String
  | 0, _ => none
  | frames + 1, assignment target value _ => do
    let text ← value.textWithin frames
    some ("Assign(" ++ target.name ++ ", " ++ text ++ ")")
  | frames + 1, compound body _ => do
    let texts ← textListBy (textWithin frames) "" body
    some ("Compound[" ++ texts ++ "]")
  | _ + 1, empty _ => some "Empty"

/-- If a call gives the text of a statement as far as there is room, then so does the list. -/
theorem textListBy_eq {frames : Nat} {call : Stmt → Option String}
    (hcall : ∀ s, call s = if s.callDepth ≤ frames then some s.shown else none)
    (separator : String) (body : List Stmt) :
    textListBy call separator body =
      if callDepthList body ≤ frames then some (shownList separator body) else none := by
  induction body generalizing separator with
  | nil => simp [textListBy, callDepthList]
  | cons s rest ih =>
    rw [textListBy, hcall, ih, callDepthList, shownList_cons]
    by_cases hs : s.callDepth ≤ frames
    · by_cases hrest : callDepthList rest ≤ frames
      · rw [if_pos hs, if_pos hrest, if_pos (Nat.max_le.2 ⟨hs, hrest⟩)]
        rfl
      · rw [if_pos hs, if_neg hrest, if_neg fun h => hrest (Nat.max_le.1 h).2]
        rfl
    · rw [if_neg hs, if_neg fun h => hs (Nat.max_le.1 h).1]
      rfl

/-- **The text of a statement takes exactly the room of its call depth.** -/
theorem textWithin_eq (frames : Nat) (s : Stmt) :
    s.textWithin frames = if s.callDepth ≤ frames then some s.shown else none := by
  induction frames generalizing s with
  | zero => rw [textWithin, if_neg (Nat.not_le.2 s.callDepth_pos)]
  | succ frames ih =>
    cases s with
    | assignment target value span =>
      rw [textWithin, value.textWithin_eq]
      exact bind_room fun text => "Assign(" ++ target.name ++ ", " ++ text ++ ")"
    | compound body span =>
      rw [textWithin, textListBy_eq ih]
      exact bind_room fun texts => "Compound[" ++ texts ++ "]"
    | empty span => simp [textWithin, callDepth]

end Stmt

/-- The text of the tree, with room for so many calls. -/
def Tree.textWithin (frames : Nat) : Tree → Option String
  | expr e => e.textWithin frames
  | stmt s => s.textWithin frames

/-- **The text of a tree takes exactly the room of its call depth.** -/
theorem Tree.textWithin_eq (frames : Nat) (tree : Tree) :
    tree.textWithin frames = if tree.callDepth ≤ frames then some tree.text else none := by
  rw [text_eq]
  cases tree with
  | expr e => exact e.textWithin_eq frames
  | stmt s => exact s.textWithin_eq frames

end MiniPascal

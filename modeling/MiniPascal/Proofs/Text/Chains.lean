/-
# Writing along the spine

An expression is written along its left spine: first the openings of all its operators, the
outermost one in front, then the operand at the bottom, and then, from the bottom up, each operand
to the right with the end of its node.  So the openings stand in one direction along the spine and
the right operands in the other one, and still each opening meets the end of its own node.  Main
statements:

* `node_links` : the bottom and the links of a spine are all of the expression;
* `heads_eq_join`, `foldl_closed_eq_join` : what stands in front of the bottom, and what behind it;
* `text_along_spine` : the text, in these parts, is the one that the recursion on the tree gives.
-/
import MiniPascal.Proofs.Evaluation.Frames

namespace MiniPascal

/-! ## Links -/

namespace Link

/-- The node of the operator, over what is to its left. -/
def node (left : Expr) (link : Link) : Expr := .binary link.op left link.right link.span

/-- What is written in front of the operands of the node. -/
def opening (link : Link) : String := "BinaryExpr(" ++ link.op.text ++ ", "

/-- What is written behind the left operand of the node. -/
def closing (link : Link) : String := ", " ++ link.right.text ++ ")"

end Link

namespace Expr

/-! ## Spines -/

/-- **The bottom and the links of a spine are all of the expression.** -/
theorem node_links (e : Expr) : e.links.foldl Link.node e.bottom = e := by
  induction e with
  | binary op left right span ihleft _ =>
    rw [links, bottom, List.foldl_append, ihleft]
    rfl
  | _ => rfl

/-- The spine goes down as long as there is an operator. -/
theorem bottom_ne_binary (e : Expr) (op : Operator) (left right : Expr) (span : Span) :
    e.bottom ≠ binary op left right span := by
  induction e with
  | binary _ _ _ _ ihleft _ => exact ihleft
  | _ => exact Expr.noConfusion

/-! ## Texts -/

/-- In front of the bottom stand the openings, from the outside in. -/
theorem heads_eq_join (links : List Link) :
    heads links = String.join (links.reverse.map Link.opening) := by
  induction links with
  | nil => rfl
  | cons link rest ih =>
    rw [heads, ih, List.reverse_cons, List.map_append, String.join_append, List.map_singleton,
      String.join_cons, String.join_nil, String.append_empty]
    rfl

/-- Behind the bottom stand the right operands, from the inside out. -/
theorem foldl_closed_eq_join (links : List Link) (out : String) :
    links.foldl (fun out link => closed out link.right.shown) out =
      out ++ String.join (links.map Link.closing) := by
  induction links generalizing out with
  | nil => exact String.append_empty.symm
  | cons link rest ih =>
    rw [List.foldl_cons, ih, List.map_cons, String.join_cons, Link.closing, text_eq_shown]
    simp only [closed, String.append_assoc]

/-- **An expression is written along its spine as the recursion on the tree has it.**  The spine
goes from the expression down to an operand without an operator, and nothing of the expression is
left out.  The text is made of the openings of the operators from the outside in, of the text of
that operand, and of the right operands from the inside out, each with the end of its node; and it
is what comes of rendering each node by its own name around its parts. -/
theorem text_along_spine (e : Expr) :
    e.text = e.shown ∧
    e.text = String.join (e.links.reverse.map Link.opening) ++ e.bottom.text ++
      String.join (e.links.map Link.closing) ∧
    e.links.foldl Link.node e.bottom = e ∧
    ∀ op left right span, e.bottom ≠ binary op left right span := by
  refine ⟨e.text_eq_shown, ?_, e.node_links, e.bottom_ne_binary⟩
  calc e.text
      = e.links.foldl (fun out link => closed out link.right.shown)
          (heads e.links ++ e.bottom.shown) := by rw [text_eq_shown, shown_eq_foldl]
    _ = heads e.links ++ e.bottom.shown ++ String.join (e.links.map Link.closing) :=
        foldl_closed_eq_join _ _
    _ = _ := by rw [heads_eq_join, text_eq_shown]

/-- In `a - 2 * b + 3`, the operand to the right of the minus sign is a spine of its own. -/
example :
    let a : Expr := .var ⟨"a", ⟨0, 1⟩⟩
    let product : Expr := .binary .mul (.number ⟨2, by decide, by decide⟩ ⟨4, 5⟩)
      (.var ⟨"b", ⟨8, 9⟩⟩) ⟨4, 9⟩
    let three : Expr := .number ⟨3, by decide, by decide⟩ ⟨12, 13⟩
    (binary .add (.binary .sub a product ⟨0, 9⟩) three ⟨0, 13⟩).text =
      "BinaryExpr(+, BinaryExpr(-, Var(a), BinaryExpr(*, Num(2), Var(b))), Num(3))" := by
  intro a product three
  rw [text_eq_shown]
  rfl

end Expr

end MiniPascal

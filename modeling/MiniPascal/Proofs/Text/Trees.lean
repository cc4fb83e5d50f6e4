/-
# The text of a tree, node by node

A tree is written along its left spines, with the text that grows at its end.  What comes of it is
the text that one would put together node by node: each node by its name, with the texts of its
parts in parentheses or brackets and commas between them.  Main statements:

* `Expr.writeChain_eq` : writing a chain writes its first operand and then its links;
* `Stmt.write_eq` : writing a statement behind a text adds its own text;
* `Tree.text_eq` : the text of a tree, node by node.
-/
import MiniPascal.Tree.Text

namespace MiniPascal

/-! ## Expressions -/

namespace Expr

/-- The text of the expression, put together node by node. -/
def shown : Expr → String
  | number value _ => "Num(" ++ value.text ++ ")"
  | var v => "Var(" ++ v.name ++ ")"
  | unary sign operand _ => "UnaryExpr(" ++ sign.text ++ ", " ++ operand.shown ++ ")"
  | binary op left right _ =>
    "BinaryExpr(" ++ op.text ++ ", " ++ left.shown ++ ", " ++ right.shown ++ ")"

variable (span : Span)

@[simp] theorem shown_number (value : Value) :
    (number value span).shown = "Num(" ++ value.text ++ ")" := rfl

@[simp] theorem shown_var (v : Variable) : (var v).shown = "Var(" ++ v.name ++ ")" := rfl

@[simp] theorem shown_unary (sign : Sign) (operand : Expr) :
    (unary sign operand span).shown =
      "UnaryExpr(" ++ sign.text ++ ", " ++ operand.shown ++ ")" := rfl

@[simp] theorem shown_binary (op : Operator) (left right : Expr) :
    (binary op left right span).shown =
      "BinaryExpr(" ++ op.text ++ ", " ++ left.shown ++ ", " ++ right.shown ++ ")" := rfl

/-- **Writing a chain writes its first operand and then its links.** -/
theorem writeChain_eq (e : Expr) (out : String) (links : List Link) :
    writeChain out links e = writeLinks (out ++ e.shown) links := by
  induction e generalizing out links with
  | number value span => simp only [writeChain, shown_number, String.append_assoc]
  | var v => simp only [writeChain, shown_var, String.append_assoc]
  | unary sign operand span ih =>
    simp only [writeChain, ih, writeLinks, shown_unary, String.append_assoc]
  | binary op left right span ihleft ihright =>
    simp only [writeChain, ihleft, writeLinks, ihright, shown_binary, String.append_assoc]

theorem text_eq_shown (e : Expr) : e.text = e.shown := by
  rw [text, writeChain_eq, writeLinks, String.empty_append]

end Expr

/-! ## Statements -/

namespace Stmt

mutual

/-- The text of the statement, put together node by node. -/
def shown : Stmt → String
  | assignment target value _ => "Assign(" ++ target.name ++ ", " ++ value.shown ++ ")"
  | compound body _ => "Compound[" ++ shownList "" body ++ "]"
  | empty _ => "Empty"

/-- The texts of statements, a comma between any two and `separator` before the first. -/
def shownList (separator : String) : List Stmt → String
  | [] => ""
  | s :: rest => separator ++ s.shown ++ shownList ", " rest

end

variable (span : Span)

@[simp] theorem shown_assignment (target : Variable) (value : Expr) :
    (assignment target value span).shown =
      "Assign(" ++ target.name ++ ", " ++ value.shown ++ ")" := rfl

@[simp] theorem shown_compound (body : List Stmt) :
    (compound body span).shown = "Compound[" ++ shownList "" body ++ "]" := rfl

@[simp] theorem shown_empty : (empty span).shown = "Empty" := rfl

@[simp] theorem shownList_nil (separator : String) : shownList separator [] = "" := rfl

@[simp] theorem shownList_cons (separator : String) (s : Stmt) (rest : List Stmt) :
    shownList separator (s :: rest) = separator ++ s.shown ++ shownList ", " rest := rfl

mutual

/-- **Writing a statement behind a text adds its own text.** -/
theorem write_eq (out : String) : ∀ s : Stmt, s.write out = out ++ s.shown
  | assignment target value span => by
    simp only [write, Expr.writeChain_eq, Expr.writeLinks, shown_assignment, String.append_assoc]
  | compound body span => by
    simp only [write, writeList_eq, shown_compound, String.append_assoc]
  | empty span => by rw [write, shown_empty]

theorem writeList_eq (out separator : String) :
    ∀ body : List Stmt, writeList out separator body = out ++ shownList separator body
  | [] => by rw [writeList, shownList_nil, String.append_empty]
  | s :: rest => by
    simp only [writeList, write_eq, writeList_eq, shownList_cons, String.append_assoc]

end

end Stmt

/-! ## Whole trees -/

/-- The text of the tree, put together node by node. -/
def Tree.shown : Tree → String
  | expr e => e.shown
  | stmt s => s.shown

/-- **The text of a tree, node by node.** -/
theorem Tree.text_eq (tree : Tree) : tree.text = tree.shown := by
  cases tree with
  | expr e => exact e.text_eq_shown
  | stmt s =>
    have hwrite := Stmt.write_eq "" s
    rwa [String.empty_append] at hwrite

end MiniPascal

/-
# Trees at other places

The places of a tree say where in the source it was read, and no more: a tree moved to other places
has the same shape, names and values, and the same text.  Offsets move by a function; if it is
monotone, moving two spans moves the least span that covers both.  Main statements:

* `Span.relocate_join` : moving commutes with joining;
* `Tree.text_relocate` : the text of a tree does not show its places.
-/
import MiniPascal.Tree.Text
import Mathlib.Order.MinMax

namespace MiniPascal

variable (f : Nat → Nat)

/-! ## Spans -/

/-- The span with both offsets moved. -/
def Span.relocate (span : Span) : Span := ⟨f span.start, f span.stop⟩

variable {f} in
/-- **Moving commutes with joining**, if the order of offsets is kept. -/
theorem Span.relocate_join (hf : Monotone f) (s t : Span) :
    (s.join t).relocate f = (s.relocate f).join (t.relocate f) := by
  rw [join, join, relocate, hf.map_min, hf.map_max]
  rfl

/-! ## Trees -/

/-- The variable with its place moved. -/
def Variable.relocate (v : Variable) : Variable := ⟨v.name, v.span.relocate f⟩

/-- The expression with all its places moved. -/
def Expr.relocate : Expr → Expr
  | number value span => number value (span.relocate f)
  | var v => var (v.relocate f)
  | unary sign operand span => unary sign (relocate operand) (span.relocate f)
  | binary op left right span => binary op (relocate left) (relocate right) (span.relocate f)

namespace Stmt

mutual

/-- The statement with all its places moved. -/
def relocate : Stmt → Stmt
  | assignment target value span =>
    assignment (target.relocate f) (value.relocate f) (span.relocate f)
  | compound body span => compound (relocateList body) (span.relocate f)
  | empty span => empty (span.relocate f)

/-- The statements with all their places moved. -/
def relocateList : List Stmt → List Stmt
  | [] => []
  | s :: rest => relocate s :: relocateList rest

end

theorem relocateList_eq_map (body : List Stmt) : relocateList f body = body.map (relocate f) := by
  induction body with
  | nil => rfl
  | cons s body ih => rw [relocateList, List.map_cons, ih]

end Stmt

namespace Tree

/-- The tree with all its places moved. -/
def relocate : Tree → Tree
  | expr e => expr (e.relocate f)
  | stmt s => stmt (s.relocate f)

/-- The tree without its places. -/
def unplaced (tree : Tree) : Tree := tree.relocate fun _ => 0

end Tree

/-- Moving twice is moving once. -/
theorem Expr.relocate_relocate (g : Nat → Nat) (e : Expr) :
    (e.relocate f).relocate g = e.relocate (g ∘ f) := by
  induction e with
  | number value span => rfl
  | var v => rfl
  | unary sign operand span ih =>
    rw [relocate, relocate, relocate, ih]
    rfl
  | binary op left right span ihleft ihright =>
    rw [relocate, relocate, relocate, ihleft, ihright]
    rfl

@[simp] theorem Expr.span_relocate (e : Expr) : (e.relocate f).span = e.span.relocate f := by
  cases e <;> rfl

@[simp] theorem Expr.isLiteralZero_relocate (e : Expr) :
    (e.relocate f).isLiteralZero = e.isLiteralZero := by
  cases e <;> rfl

/-! ## Texts -/

namespace Expr

/-- The text of a chain shows no places of its first operand, if that of its links shows none. -/
theorem writeChain_relocate (e : Expr) {links moved : List Link}
    (hlinks : ∀ out, writeLinks out moved = writeLinks out links) (out : String) :
    writeChain out moved (e.relocate f) = writeChain out links e := by
  induction e generalizing links moved out with
  | number value span => rw [relocate, writeChain, writeChain, hlinks]
  | var v =>
    rw [relocate, writeChain, writeChain, hlinks]
    rfl
  | unary sign operand span ih =>
    rw [relocate, writeChain, writeChain, hlinks, ih fun out => rfl]
  | binary op left right span ihleft ihright =>
    rw [relocate, writeChain, writeChain]
    refine ihleft (fun out => ?_) _
    rw [writeLinks, writeLinks, hlinks, ihright fun out => rfl]

theorem text_relocate (e : Expr) : (e.relocate f).text = e.text :=
  e.writeChain_relocate f (fun _ => rfl) ""

end Expr

namespace Stmt

mutual

theorem write_relocate (out : String) : ∀ s : Stmt, (s.relocate f).write out = s.write out
  | assignment target value span => by
    rw [relocate, write, write, value.writeChain_relocate f fun _ => rfl]
    rfl
  | compound body span => by rw [relocate, write, write, writeList_relocate]
  | empty span => by rw [relocate, write, write]

theorem writeList_relocate (out separator : String) :
    ∀ body : List Stmt, writeList out separator (relocateList f body) = writeList out separator body
  | [] => rfl
  | s :: rest => by rw [relocateList, writeList, writeList, write_relocate, writeList_relocate]

end

end Stmt

/-- **The text of a tree does not show its places.** -/
theorem Tree.text_relocate (tree : Tree) : (tree.relocate f).text = tree.text := by
  cases tree with
  | expr e => exact e.text_relocate f
  | stmt s => exact s.write_relocate f ""

/-- Trees that differ in their places only have the same text. -/
theorem Tree.text_of_unplaced {tree other : Tree} (h : tree.unplaced = other.unplaced) :
    tree.text = other.text := by
  rw [← tree.text_relocate fun _ => 0, ← other.text_relocate fun _ => 0]
  exact congrArg text h

end MiniPascal

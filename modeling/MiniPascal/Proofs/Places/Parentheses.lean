/-
# Expressions in parentheses

An expression in parentheses is a factor, whatever stands around it: its tree is that of the
expression, moved to where the expression stands, and it is nested one group deeper.  So a text in
which every operand stands in parentheses of its own is parsed to the tree that it was written for,
and parentheses around an expression change nothing but places.  Main statements:

* `exists_group_at` : an expression in parentheses is a factor;
* `parse_grouped`, `parse_signed`, `parse_operation` : alone, behind a sign, and beside an operator;
* `Expr.parse_parenthesised` : the text with all parentheses is parsed to its tree;
* `parentheses_undone` : all of this together.
-/
import MiniPascal.Proofs.Text.Literals

namespace MiniPascal

open Grammar

/-! ## Parentheses -/

/-- The text in parentheses. -/
def grouped (text : String) : String := "(" ++ text ++ ")"

theorem toList_grouped (text : String) :
    (grouped text).toList = "(".toList ++ (text.toList ++ ")".toList) := by
  rw [grouped, String.toList_append, String.toList_append, List.append_assoc]

theorem length_grouped (text : String) : (grouped text).length = text.length + 2 := by
  rw [grouped, String.length_append, String.length_append]
  show 1 + text.length + 1 = text.length + 2
  omega

/-- A closing parenthesis is no part of the token in front of it. -/
theorem cut_rightParen (rest : List Char) : Cut (")".toList ++ rest) := by
  intro c hc
  obtain rfl : ')' = c := Option.some.inj hc
  decide +kernel

section

variable {source other : String} {limit : Nat} {e d : Expr}

/-- **An accepted expression is an expression inside a longer text**, at the places where it stands
there. -/
theorem exists_expression_at (h : parse source .expression limit = .ok (.expr e)) (front : Nat)
    {behind : List Char} (hbehind : Cut behind) :
    ∃ d : Expression,
      Cursor.items ⟨front, source.toList ++ behind⟩ =
        d.yield.map .token ++ Cursor.items ⟨front + source.length, behind⟩ ∧
      (∀ n ∈ d.depths 0, n ≤ limit) ∧ d.tree = e.relocate (front + ·) := by
  obtain ⟨d, hitems, hdepths, htree⟩ := parse_eq_ok_iff.1 h
  have hmono : Monotone (front + ·) := fun _ _ hle => Nat.add_le_add_left hle front
  obtain ⟨d', hyield, hdepths', htree'⟩ := d.exists_relocate hmono
  cases d with
  | expression inner =>
    cases d' with
    | expression moved =>
      have hyields : moved.yield = inner.yield.map (Token.relocate (front + ·)) := hyield
      have hopen : moved.depths 0 = inner.depths 0 := hdepths'
      refine ⟨moved, ?_, ?_, ?_⟩
      · have hplaced := Cursor.items_append hbehind front hitems
        rw [String.length_toList, Nat.zero_add] at hplaced
        rw [hyields]
        exact hplaced
      · rw [hopen]
        exact hdepths
      · rw [htree] at htree'
        exact Tree.expr.inj htree'

/-- **An accepted expression in parentheses is a factor**, whatever stands around it. -/
theorem exists_group_at (h : parse source .expression limit = .ok (.expr e)) (front : Nat)
    (behind : List Char) :
    ∃ f : Factor,
      Cursor.items ⟨front, (grouped source).toList ++ behind⟩ =
        f.yield.map .token ++ Cursor.items ⟨front + (grouped source).length, behind⟩ ∧
      (∀ n ∈ f.depths 0, n ≤ limit + 1) ∧ f.tree = e.relocate (front + 1 + ·) := by
  obtain ⟨d, hitems, hdepths, htree⟩ :=
    exists_expression_at h (front + 1) (cut_rightParen behind)
  have hopening : Cursor.items ⟨front, "(".toList ++ (source.toList ++ (")".toList ++ behind))⟩ =
      .token ⟨.symbol .leftParen, "(", ⟨front, front + 1⟩⟩ ::
        Cursor.items ⟨front + 1, source.toList ++ (")".toList ++ behind)⟩ :=
    Cursor.items_symbol (s := .leftParen) (by decide) front _
  have hclosing : Cursor.items ⟨front + 1 + source.length, ")".toList ++ behind⟩ =
      .token ⟨.symbol .rightParen, ")",
        ⟨front + 1 + source.length, front + 1 + source.length + 1⟩⟩ ::
        Cursor.items ⟨front + 1 + source.length + 1, behind⟩ :=
    Cursor.items_symbol (s := .rightParen) (by decide) (front + 1 + source.length) behind
  have hstop : front + 1 + source.length + 1 = front + (grouped source).length := by
    rw [length_grouped]
    omega
  refine ⟨.group ⟨⟨.symbol .leftParen, "(", ⟨front, front + 1⟩⟩, rfl⟩ d
    ⟨⟨.symbol .rightParen, ")", ⟨front + 1 + source.length, front + 1 + source.length + 1⟩⟩, rfl⟩,
    ?_, ?_, htree⟩
  · rw [← hstop, toList_grouped, List.append_assoc, List.append_assoc, hopening, hitems, hclosing]
    simp [Factor.yield]
  · rw [Factor.depths, Expression.depths_succ]
    simp only [List.forall_mem_cons, List.forall_mem_append, List.forall_mem_map]
    refine ⟨Nat.zero_le _, fun n hn => Nat.succ_le_succ (hdepths n hn), ?_, nofun⟩
    omega

/-! ## One operation -/

/-- **An accepted expression is accepted in parentheses**, with room for one group more. -/
theorem parse_grouped (h : parse source .expression limit = .ok (.expr e)) :
    parse (grouped source) .expression (limit + 1) = .ok (.expr (e.relocate (· + 1))) := by
  obtain ⟨f, hitems, hdepths, htree⟩ := exists_group_at h 0 []
  rw [List.append_nil, Cursor.items_nil, List.append_nil] at hitems
  rw [parse_of_factor hitems hdepths, htree]
  simp only [Nat.zero_add, Nat.add_comm 1]

/-- **An accepted expression is accepted in parentheses behind a sign**, with room for two groups
more. -/
theorem parse_signed (sign : Sign) (h : parse source .expression limit = .ok (.expr e)) :
    ∃ span, parse (sign.text ++ grouped source) .expression (limit + 2) =
      .ok (.expr (.unary sign (e.relocate (2 + ·)) span)) := by
  obtain ⟨f, hitems, hdepths, htree⟩ := exists_group_at h 1 []
  rw [List.append_nil, Cursor.items_nil, List.append_nil] at hitems
  have hsigned : (Cursor.ofSource (sign.text ++ grouped source)).items =
      (Factor.signed sign ⟨⟨sign.kind, sign.text, ⟨0, 1⟩⟩, rfl⟩ f).yield.map .token := by
    rw [Cursor.ofSource, String.toList_append, Cursor.items_sign, hitems]
    rfl
  have hroom : ∀ n ∈ (Factor.signed sign ⟨⟨sign.kind, sign.text, ⟨0, 1⟩⟩, rfl⟩ f).depths 0,
      n ≤ limit + 2 := by
    rw [Factor.depths, Factor.depths_succ]
    simp only [List.forall_mem_cons, List.forall_mem_map]
    exact ⟨Nat.zero_le _, fun n hn => Nat.succ_le_succ (hdepths n hn)⟩
  rw [parse_of_factor hsigned hroom, Factor.tree, htree]
  exact ⟨_, rfl⟩

/-- **Two accepted expressions in parentheses are accepted with an operator between them**, with
room for one group more. -/
theorem parse_operation (op : Operator) (hleft : parse source .expression limit = .ok (.expr e))
    (hright : parse other .expression limit = .ok (.expr d)) :
    parse (grouped source ++ op.text ++ grouped other) .expression (limit + 1) =
      .ok (.expr (.combine op (e.relocate (1 + ·)) (d.relocate (source.length + 4 + ·)))) := by
  obtain ⟨f, hf, hfdepths, hftree⟩ :=
    exists_group_at hleft 0 (op.text.toList ++ (grouped other).toList)
  obtain ⟨g, hg, hgdepths, hgtree⟩ := exists_group_at hright (source.length + 3) []
  rw [List.append_nil, Cursor.items_nil, List.append_nil] at hg
  rw [Cursor.items_operator, length_grouped, Nat.zero_add, hg] at hf
  have hitems : (Cursor.ofSource (grouped source ++ op.text ++ grouped other)).items =
      (f.yield ++ (⟨op.kind, op.text, ⟨source.length + 2, source.length + 3⟩⟩ : Token) ::
        g.yield).map .token := by
    rw [Cursor.ofSource, String.toList_append, String.toList_append, List.append_assoc, hf,
      List.map_append]
    rfl
  rw [parse_of_factors ⟨_, rfl⟩ hitems hfdepths hgdepths, hftree, hgtree]

end

/-! ## All parentheses -/

namespace Expr

/-- The text of the expression in which every operand stands in parentheses. -/
def parenthesised : Expr → String
  | number value _ => value.text
  | var v => v.name
  | unary sign operand _ => sign.text ++ grouped operand.parenthesised
  | binary op left right _ => grouped left.parenthesised ++ op.text ++ grouped right.parenthesised

/-- How many operations lie inside one another. -/
def height : Expr → Nat
  | number _ _ => 0
  | var _ => 0
  | unary _ operand _ => operand.height + 1
  | binary _ left right _ => max left.height right.height + 1

/-- The numbers of the expression are not negative, and its names are words but no keywords. -/
def Writable : Expr → Prop
  | number value _ => 0 ≤ value.toInt
  | var v => IsWord v.name.toList ∧ ∀ k : Keyword, v.name ≠ k.text
  | unary _ operand _ => operand.Writable
  | binary _ left right _ => left.Writable ∧ right.Writable

end Expr

/-- A name is an expression. -/
theorem parse_name {name : String} (hname : IsWord name.toList)
    (hkeyword : ∀ k : Keyword, name ≠ k.text) (limit : Nat) :
    parse name .expression limit = .ok (.expr (.var ⟨name, ⟨0, name.length⟩⟩)) := by
  have hwritten : Kind.Written name.toList [] .identifier := by
    refine ⟨hname, cut_nil.stops_wordPart, ?_⟩
    rwa [String.ofList_toList]
  have hitems : (Cursor.ofSource name).items =
      [.token ⟨.identifier, name, ⟨0, name.length⟩⟩] := by
    have halone := Cursor.items_alone (.token hwritten) 0
    rw [Cursor.itemAt, String.ofList_toList, String.length_toList, Nat.zero_add] at halone
    exact halone
  exact parse_of_factor (f := .name ⟨⟨.identifier, name, ⟨0, name.length⟩⟩, rfl⟩) hitems
    (by simp [Factor.depths])

/-- **The text with all parentheses is parsed to the expression it was written for**, but for the
places, with room for two groups in each operation. -/
theorem Expr.parse_parenthesised {t : Expr} (h : t.Writable) {limit : Nat}
    (hlimit : 2 * t.height ≤ limit) :
    ∃ e : Expr, parse t.parenthesised .expression limit = .ok (.expr e) ∧
      e.relocate (fun _ => 0) = t.relocate (fun _ => 0) := by
  induction t generalizing limit with
  | number value span => exact ⟨_, value.parse_text_of_nonneg h limit, rfl⟩
  | var v => exact ⟨_, parse_name h.1 h.2 limit, rfl⟩
  | unary sign operand span ih =>
    rw [height] at hlimit
    obtain ⟨room, rfl⟩ := Nat.exists_eq_add_of_le' (show 2 ≤ limit by omega)
    obtain ⟨e, he, hplaces⟩ := ih h (show 2 * operand.height ≤ room by omega)
    obtain ⟨node, hparse⟩ := parse_signed sign he
    refine ⟨_, hparse, ?_⟩
    rw [relocate, relocate, relocate_relocate]
    exact congrArg (unary sign · _) hplaces
  | binary op left right span ihleft ihright =>
    rw [height] at hlimit
    obtain ⟨room, rfl⟩ := Nat.exists_eq_add_of_le' (show 1 ≤ limit by omega)
    obtain ⟨l, hl, hleft⟩ := ihleft h.1 (show 2 * left.height ≤ room by omega)
    obtain ⟨r, hr, hright⟩ := ihright h.2 (show 2 * right.height ≤ room by omega)
    refine ⟨_, parse_operation op hl hr, ?_⟩
    rw [combine, relocate, relocate, relocate_relocate, relocate_relocate]
    exact congrArg₂ (binary op · · _) hleft hright

/-- **Parsing undoes parentheses.**  The text of an expression with all parentheses is parsed to the
expression, but for the places, with room for two groups in each operation.  An accepted expression
in parentheses is accepted with room for one group more; its tree is the same one place further on,
comes to the same value or fails for the same cause, and is the number zero, also as a divisor, if
it is so without the parentheses. -/
theorem parentheses_undone :
    (∀ t : Expr, t.Writable → ∀ limit, 2 * t.height ≤ limit →
      ∃ tree, parse t.parenthesised .expression limit = .ok tree ∧
        tree.unplaced = (Tree.expr t).unplaced) ∧
    ∀ source limit tree, parse source .expression limit = .ok tree → ∃ e, tree = .expr e ∧
      parse ("(" ++ source ++ ")") .expression (limit + 1) = .ok (.expr (e.relocate (· + 1))) ∧
      run ("(" ++ source ++ ")") .expression (limit + 1) =
        relocateFault (· + 1) (run source .expression limit) ∧
      (∀ env, (e.relocate (· + 1)).evaluate env = relocateFault (· + 1) (e.evaluate env)) ∧
      (e.relocate (· + 1)).isLiteralZero = e.isLiteralZero ∧
      ∀ dividend d, parse dividend .expression limit = .ok (.expr d) → ∃ divisor,
        parse ("(" ++ dividend ++ ")" ++ "/" ++ ("(" ++ source ++ ")")) .expression (limit + 1) =
          .ok (.expr (.combine .div (d.relocate (1 + ·)) divisor)) ∧
        divisor = e.relocate (dividend.length + 4 + ·) ∧
        divisor.isLiteralZero = e.isLiteralZero := by
  constructor
  · intro t ht limit hlimit
    obtain ⟨e, he, hplaces⟩ := t.parse_parenthesised ht hlimit
    exact ⟨_, he, congrArg Tree.expr hplaces⟩
  · intro source limit tree h
    obtain ⟨d, -, -, rfl⟩ := parse_eq_ok_iff.1 h
    cases d with
    | expression inner =>
      have hgrouped := parse_grouped h
      refine ⟨inner.tree, rfl, hgrouped, ?_, ?_, ?_, ?_⟩
      · rw [run_of_parse_ok h, ← Tree.run_relocate]
        exact run_of_parse_ok hgrouped
      · exact fun env => Expr.evaluate_relocate _ env inner.tree
      · exact Expr.isLiteralZero_relocate _ inner.tree
      · exact fun dividend d hdividend =>
          ⟨_, parse_operation .div hdividend h, rfl, Expr.isLiteralZero_relocate _ inner.tree⟩

/-- The operands of `(-(x))/(0)` are `-(x)` and the number zero, and `(1/0)` fails as `1/0` does. -/
theorem parentheses_undone_quotients :
    (∃ t tree, Expr.parenthesised t = "(-(x))/(0)" ∧
      parse t.parenthesised .expression 4 = .ok tree ∧ tree.unplaced = (Tree.expr t).unplaced) ∧
    run "(1/0)" .expression 1 = relocateFault (· + 1) (run "1/0" .expression 0) := by
  have hname : IsWord "x".toList := ⟨'x', [], rfl, by decide +kernel, by simp⟩
  have hkeyword : ∀ k : Keyword, "x" ≠ k.text := by
    intro k
    cases k <;> decide
  let t : Expr := .binary .div (.unary .minus (.var ⟨"x", ⟨3, 4⟩⟩) ⟨1, 5⟩) (.number .zero ⟨8, 9⟩)
    ⟨0, 10⟩
  have hwritable : t.Writable := ⟨⟨hname, hkeyword⟩, Int.le_refl 0⟩
  obtain ⟨tree, hparse, hplaces⟩ := parentheses_undone.1 t hwritable 4 (by decide)
  have hquotient : parse "1/0" .expression 0 = .ok (.expr (.binary .div
      (.number ⟨1, by decide, by decide⟩ ⟨0, 1⟩) (.number .zero ⟨2, 3⟩) ⟨0, 3⟩)) := by
    decide +kernel
  obtain ⟨e, -, -, hrun, -⟩ := parentheses_undone.2 _ _ _ hquotient
  exact ⟨⟨t, tree, by decide, hparse, hplaces⟩, hrun⟩

end MiniPascal

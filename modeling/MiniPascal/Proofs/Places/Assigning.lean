/-
# An expression as the value of an assignment

A program that does nothing but assign the value of an expression to a variable comes to what the
expression alone comes to.  The tokens of the expression stand in it as they are, moved behind the
sign of assignment, and inside one group more; what stands around the expression is decided by the
grammar.  Main statements:

* `Grammar.Derivation.exists_relocate` : tokens at other places have a derivation at these places;
* `Grammar.Expression.depths_succ` : inside one group more, one group more is open everywhere;
* `parse_assigning`, `Tree.run_assigning` : the tree of the program, and what it comes to;
* `modes_agree` : all of this together.
-/
import MiniPascal.Proofs.Lexical.Embedding
import MiniPascal.Proofs.Parser.Nesting
import MiniPascal.Proofs.Session.Modes

namespace MiniPascal

open Config Grammar

/-! ## Derivations at other places -/

/-- A reading of moved tokens leads to a moved configuration. -/
theorem Config.Reads.relocate {f : Nat → Nat} {c d : Config} {ts : List Token} {ds : List Nat}
    (h : Reads c ts ds d) (hf : Monotone f) :
    Reads (c.relocate f) (ts.map (Token.relocate f)) ds (d.relocate f) := by
  induction h with
  | nil c => exact .nil _
  | @cons c d t m ts ds hmove _ ih =>
    have hmoved : (c.relocate f).move? (t.relocate f) = some (m.relocate f) := by
      rw [move?_relocate hf, hmove]
      rfl
    rw [← Move.next_relocate] at ih
    have hreads := Reads.cons hmoved ih
    rwa [groups_relocate] at hreads

/-- **Tokens at other places have a derivation at these places**, with as many groups open. -/
theorem Grammar.Derivation.exists_relocate {f : Nat → Nat} {mode : Mode} (d : Derivation mode)
    (hf : Monotone f) :
    ∃ e : Derivation mode, e.yield = d.yield.map (Token.relocate f) ∧ e.depths = d.depths ∧
      e.tree = d.tree.relocate f := by
  -- The moved tokens are read as the old ones are, and what is read has a derivation.
  obtain ⟨c, hreads, htree⟩ := d.reads
  have hmoved := hreads.relocate hf
  rw [relocate_start] at hmoved
  have htree' : (c.relocate f).tree? = some (d.tree.relocate f) := by
    rw [tree?_relocate hf, htree]
    rfl
  obtain ⟨e, hyield, he⟩ := accepts_start_iff.1 ⟨d.depths, _, hmoved, htree'⟩
  obtain ⟨c', hreads', -⟩ := e.reads
  rw [hyield] at hreads'
  exact ⟨e, hyield, (hreads'.unique hmoved).1, he⟩

/-! ## One group more -/

namespace Grammar

mutual

theorem Factor.depths_succ (f : Factor) (n : Nat) :
    f.depths (n + 1) = (f.depths n).map (· + 1) := by
  cases f with
  | signed sign mark operand =>
    rw [Factor.depths, Factor.depths, Factor.depths_succ operand, List.map_cons]
  | integer value literal => rfl
  | group opening inner closing =>
    rw [Factor.depths, Factor.depths, Expression.depths_succ inner, List.map_cons, List.map_append]
    rfl
  | name word => rfl
termination_by structural f

theorem Factors.depths_succ (fs : Factors) (n : Nat) :
    fs.depths (n + 1) = (fs.depths n).map (· + 1) := by
  cases fs with
  | nil => rfl
  | cons op multiplicative mark factor rest =>
    rw [Factors.depths, Factors.depths, Factor.depths_succ factor, Factors.depths_succ rest,
      List.map_cons, List.map_append]
termination_by structural fs

theorem Term.depths_succ (t : Term) (n : Nat) :
    t.depths (n + 1) = (t.depths n).map (· + 1) := by
  obtain ⟨first, rest⟩ := t
  rw [Term.depths, Term.depths, Factor.depths_succ first, Factors.depths_succ rest, List.map_append]
termination_by structural t

theorem Terms.depths_succ (ts : Terms) (n : Nat) :
    ts.depths (n + 1) = (ts.depths n).map (· + 1) := by
  cases ts with
  | nil => rfl
  | cons op additive mark term rest =>
    rw [Terms.depths, Terms.depths, Term.depths_succ term, Terms.depths_succ rest, List.map_cons,
      List.map_append]
termination_by structural ts

/-- **Inside one group more, one group more is open everywhere.** -/
theorem Expression.depths_succ (e : Expression) (n : Nat) :
    e.depths (n + 1) = (e.depths n).map (· + 1) := by
  obtain ⟨first, rest⟩ := e
  rw [Expression.depths, Expression.depths, Term.depths_succ first, Terms.depths_succ rest,
    List.map_append]
termination_by structural e

end

end Grammar

/-! ## The program around an expression -/

/-- The program that assigns the value of the expression to the variable. -/
def assigning (name expression : String) : String :=
  "BEGIN " ++ name ++ " := " ++ expression ++ " END."

/-- Where an offset of the expression is in the program. -/
def valueOffset (name : String) (offset : Nat) : Nat := 10 + name.length + offset

/-- The tree of the program, of which the expression has the tree `e` and ends at `stop`. -/
def assigningTree (name : String) (stop : Nat) (e : Expr) : Tree :=
  .stmt (.compound
    [.assignment ⟨name, ⟨6, 6 + name.length⟩⟩ (e.relocate (valueOffset name))
      ⟨6, valueOffset name e.span.stop⟩]
    ⟨0, valueOffset name stop + 4⟩)

/-- The derivation of the program, of which the expression has the derivation `e`, at its places,
and ends at `stop`. -/
def Grammar.assigning (name : String) (stop : Nat) (e : Expression) : Derivation .program :=
  .program
    (.mk ⟨⟨.keyword .blockBegin, "BEGIN", ⟨0, 5⟩⟩, rfl⟩
      (.last (.assignment ⟨⟨.identifier, name, ⟨6, 6 + name.length⟩⟩, rfl⟩
        ⟨⟨.symbol .assign, ":=", ⟨7 + name.length, 9 + name.length⟩⟩, rfl⟩ e))
      ⟨⟨.keyword .blockEnd, "END", ⟨stop + 1, stop + 4⟩⟩, rfl⟩)
    ⟨⟨.symbol .dot, ".", ⟨stop + 4, stop + 5⟩⟩, rfl⟩

theorem monotone_valueOffset (name : String) : Monotone (valueOffset name) := by
  intro x y hxy
  unfold valueOffset
  omega

variable {name source : String} {ts : List Token}

/-- The text of the program, token by token. -/
theorem toList_assigning (name source : String) :
    (assigning name source).toList = "BEGIN".toList ++ ' ' :: (name.toList ++
      ' ' :: (":=".toList ++ ' ' :: (source.toList ++ ' ' :: ("END".toList ++ ['.'])))) := by
  simp [assigning, String.toList_append]

/-- The tokens in front of the expression, and then what is read from its start on. -/
theorem items_before_value (hname : IsWord name.toList) (hkeyword : ∀ k : Keyword, name ≠ k.text)
    (rest : List Char) :
    Cursor.items
        ⟨0, "BEGIN".toList ++ ' ' :: (name.toList ++ ' ' :: (":=".toList ++ ' ' :: rest))⟩ =
      .token ⟨.keyword .blockBegin, "BEGIN", ⟨0, 5⟩⟩ ::
      .token ⟨.identifier, name, ⟨6, 6 + name.length⟩⟩ ::
      .token ⟨.symbol .assign, ":=", ⟨7 + name.length, 9 + name.length⟩⟩ ::
      Cursor.items ⟨valueOffset name 0, rest⟩ := by
  have hblank : isBlank ' ' = true := by decide
  have hstops : ∀ after, Stops isWordPart (' ' :: after) :=
    fun after => (parted_blank hblank after).cut.stops_wordPart
  have hbegin : ∀ after, Kind.Written "BEGIN".toList (' ' :: after) (.keyword .blockBegin) := by
    intro after
    have htail : "EGIN".toList.all isWordPart = true := by decide +kernel
    exact ⟨⟨'B', _, rfl, by decide +kernel, List.all_eq_true.1 htail⟩, hstops after, rfl⟩
  have htarget : ∀ after, Kind.Written name.toList (' ' :: after) .identifier := by
    intro after
    exact ⟨hname, hstops after, by rwa [String.ofList_toList]⟩
  have hassign : ∀ after, Kind.Written ":=".toList (' ' :: after) (.symbol .assign) :=
    fun after => ⟨rfl, by simp⟩
  have hsecond := Cursor.items_word hblank (htarget (":=".toList ++ ' ' :: rest)) 6
  have hthird := Cursor.items_word hblank (hassign rest) (7 + name.length)
  have hstart : 6 + name.length + 1 = 7 + name.length := by omega
  have hvalue : 7 + name.length + ":=".toList.length + 1 = valueOffset name 0 := by
    show 7 + name.length + 2 + 1 = 10 + name.length + 0
    omega
  have hstop : 7 + name.length + ":=".toList.length = 9 + name.length := by
    show 7 + name.length + 2 = 9 + name.length
    omega
  rw [String.ofList_toList, String.length_toList, hstart] at hsecond
  rw [hvalue, hstop] at hthird
  rw [Cursor.items_word hblank (hbegin _)]
  exact congrArg (List.cons _) (hsecond.trans (congrArg (List.cons _) hthird))

/-- The tokens behind an expression that ends at `stop`. -/
theorem items_behind_value (stop : Nat) :
    Cursor.items ⟨stop, ' ' :: ("END".toList ++ ['.'])⟩ =
      [.token ⟨.keyword .blockEnd, "END", ⟨stop + 1, stop + 4⟩⟩,
        .token ⟨.symbol .dot, ".", ⟨stop + 4, stop + 5⟩⟩] := by
  have hend : Kind.Written "END".toList ['.'] (.keyword .blockEnd) := by
    have htail : "ND".toList.all isWordPart = true := by decide +kernel
    refine ⟨⟨'E', _, rfl, by decide +kernel, List.all_eq_true.1 htail⟩, ?_, rfl⟩
    -- The dot is no part of a word.
    intro c hc
    cases hc
    decide +kernel
  have hdot : Kind.Written ".".toList [] (.symbol .dot) := ⟨rfl, by simp⟩
  have hblank : Trivia [' '] := .blank (by decide) .nil
  have hskip := Cursor.items_trivia hblank stop ("END".toList ++ ['.'])
  have hclosing := Cursor.items_lexeme (.token hend) (stop + 1)
  have hlast := Cursor.items_lexeme (.token hdot) (stop + 4)
  have hnone := Cursor.items_nil (stop + 5)
  exact hskip.trans (hclosing.trans (congrArg (List.cons _) (hlast.trans
    (congrArg (List.cons _) hnone))))

/-- **The tokens of the program** are those of the expression, moved, and those around them. -/
theorem items_assigning (hname : IsWord name.toList) (hkeyword : ∀ k : Keyword, name ≠ k.text)
    (e : Expression) (hitems : (Cursor.ofSource source).items = ts.map .token)
    (he : e.yield = ts.map (Token.relocate (valueOffset name))) :
    (Cursor.ofSource (assigning name source)).items =
      (Grammar.assigning name (valueOffset name source.length) e).yield.map .token := by
  have hparted : Parted (' ' :: ("END".toList ++ ['.'])) := parted_blank (by decide) _
  have hvalue := Cursor.items_append hparted.cut (10 + name.length) hitems
  have hstop : 10 + name.length + (0 + source.toList.length) = valueOffset name source.length := by
    rw [Nat.zero_add, String.length_toList]
    rfl
  rw [hstop, items_behind_value] at hvalue
  replace hvalue : Cursor.items ⟨valueOffset name 0,
      source.toList ++ ' ' :: ("END".toList ++ ['.'])⟩ =
        (ts.map (Token.relocate (valueOffset name))).map .token ++ _ := hvalue
  rw [Cursor.ofSource, toList_assigning, items_before_value hname hkeyword, hvalue, ← he]
  simp [Grammar.assigning, Derivation.yield, Block.yield, Statements.yield, Statement.yield]

/-! ## What the program is parsed to -/

variable {mode : Mode} {limit bound : Nat}

/-- The program is nested one group deeper than the expression. -/
theorem Grammar.nesting_assigning_le_iff {stop m : Nat} {e : Expression} :
    (Grammar.assigning name stop e).nesting ≤ m + 1 ↔ (Derivation.expression e).nesting ≤ m := by
  have hdepths : (Grammar.assigning name stop e).depths =
      0 :: 1 :: 1 :: ((e.depths 0).map (· + 1) ++ [1, 0]) := by
    rw [← Expression.depths_succ]
    simp [Grammar.assigning, Derivation.depths, Block.depths, Statements.depths, Statement.depths]
  rw [Derivation.nesting_le_iff, Derivation.nesting_le_iff, hdepths, Derivation.depths]
  simp only [List.forall_mem_cons, List.forall_mem_append, List.forall_mem_map]
  constructor
  · rintro ⟨-, -, -, h, -⟩ n hn
    exact Nat.le_of_succ_le_succ (h n hn)
  · intro h
    have hone : 1 ≤ m + 1 := by omega
    exact ⟨Nat.zero_le _, hone, hone, fun n hn => Nat.succ_le_succ (h n hn), hone, Nat.zero_le _,
      nofun⟩

/-- The tree of the program holds that of the expression, moved. -/
theorem Grammar.tree_assigning {stop : Nat} {e : Expression} {value : Expr}
    (he : e.tree = value.relocate (valueOffset name)) :
    (Grammar.assigning name (valueOffset name stop) e).tree = assigningTree name stop value := by
  have htarget : min 6 (valueOffset name value.span.start) = 6 ∧
      max (6 + name.length) (valueOffset name value.span.stop) =
        valueOffset name value.span.stop := by
    unfold valueOffset
    omega
  have hspan : (Span.mk 6 (6 + name.length)).join (value.relocate (valueOffset name)).span =
      ⟨6, valueOffset name value.span.stop⟩ := by
    rw [Expr.span_relocate]
    exact congrArg₂ Span.mk htarget.1 htarget.2
  have hblock : (Span.mk 0 5).join ⟨valueOffset name stop + 1, valueOffset name stop + 4⟩ =
      ⟨0, valueOffset name stop + 4⟩ := by
    refine congrArg₂ Span.mk (Nat.zero_min _) (Nat.max_eq_right ?_)
    show 5 ≤ valueOffset name stop + 4
    unfold valueOffset
    omega
  rw [assigningTree, ← hspan, ← hblock, ← he]
  rfl

/-- **What the program is parsed to**, inside one group more than the expression. -/
theorem parse_assigning {tree : Tree} (hname : IsWord name.toList)
    (hkeyword : ∀ k : Keyword, name ≠ k.text) (h : parse source .expression bound = .ok tree) :
    ∃ e nesting, tree = .expr e ∧ ∀ m t,
      (parse source .expression m = .ok t ↔ nesting ≤ m ∧ .expr e = t) ∧
      (parse (assigning name source) .program (m + 1) = .ok t ↔
        nesting ≤ m ∧ assigningTree name source.length e = t) := by
  obtain ⟨d, hitems, -, rfl⟩ := parse_eq_ok_iff_nesting.1 h
  obtain ⟨d', hyield, hdepths, htree⟩ := d.exists_relocate (monotone_valueOffset name)
  -- Moving changes no nesting, so the program has room where the expression has it.
  have hnesting : ∀ m, d'.nesting ≤ m ↔ d.nesting ≤ m := by
    intro m
    rw [Derivation.nesting_le_iff, Derivation.nesting_le_iff, hdepths]
  cases d with
  | expression e =>
    cases d' with
    | expression e' =>
      have hassigning := items_assigning hname hkeyword e' hitems hyield
      have hvalue : e'.tree = e.tree.relocate (valueOffset name) := Tree.expr.inj htree
      refine ⟨e.tree, _, rfl, fun m t => ⟨parse_eq_ok_iff_of_items hitems, ?_⟩⟩
      rw [parse_eq_ok_iff_of_items hassigning, nesting_assigning_le_iff, hnesting,
        tree_assigning hvalue]

/-! ## What the program comes to -/

/-- An expression alone comes to its value. -/
theorem Tree.run_expr (e : Expr) : (Tree.expr e).run = (e.evaluate .empty).map .value := by
  rw [run, evaluate]
  cases e.evaluate .empty <;> rfl

/-- **What the program comes to**: the variable is bound to the value of the expression, or the
fault of the expression is met at its place in the program. -/
theorem Tree.run_assigning (name : String) (stop : Nat) (e : Expr) :
    (assigningTree name stop e).run = relocateFault (valueOffset name)
      ((e.evaluate .empty).map fun v => .environment (.ofList [(name, v)])) := by
  rw [assigningTree, run, evaluate, Stmt.execute, Stmt.executeList, Stmt.execute,
    Expr.evaluate_relocate]
  cases e.evaluate .empty <;> rfl

/-- The program binds the variable to a value if the expression has it. -/
theorem Tree.run_assigning_eq_ok_iff {stop : Nat} {e : Expr} {v : Value} :
    (assigningTree name stop e).run = .ok (.environment (.ofList [(name, v)])) ↔
      (Tree.expr e).run = .ok (.value v) := by
  rw [run_assigning, run_expr]
  cases e.evaluate .empty with
  | error fault => exact iff_of_false nofun nofun
  | ok w =>
    constructor
    · intro hw
      have hbindings : [(name, w)] = [(name, v)] :=
        congrArg Environment.bindings (Outcome.environment.inj (Except.ok.inj hw))
      obtain ⟨⟩ := hbindings
      rfl
    · intro hw
      obtain rfl := Outcome.value.inj (Except.ok.inj hw)
      rfl

/-- The expression has a value, or the program fails as it does. -/
theorem Tree.run_assigning_cases (name : String) (stop : Nat) (e : Expr) :
    (∃ v, (Tree.expr e).run = .ok (.value v)) ∨
      ∃ fault, (Tree.expr e).run = .error fault ∧
        (assigningTree name stop e).run = .error (fault.relocate (valueOffset name)) := by
  rw [run_assigning, run_expr]
  cases e.evaluate .empty with
  | ok v => exact Or.inl ⟨v, rfl⟩
  | error fault => exact Or.inr ⟨fault, rfl, rfl⟩

/-- **Expressions and programs agree.**  The program that assigns the value of an expression to a
variable is accepted with room for one group more than the expression, and it has the tree of the
expression, moved, as its only value.  Where it is accepted, it binds the variable alone, to the
value that the expression has, or else both fail for the same cause, at the same place of the
expression. -/
theorem modes_agree {tree : Tree} (hname : IsWord name.toList)
    (hkeyword : ∀ k : Keyword, name ≠ k.text) (h : parse source .expression bound = .ok tree) :
    ∃ e, tree = .expr e ∧ ∀ m,
      ((∃ t, parse (assigning name source) .program (m + 1) = .ok t) ↔
        ∃ t, parse source .expression m = .ok t) ∧
      (∀ t, parse source .expression m = .ok t → t = .expr e) ∧
      ∀ t, parse (assigning name source) .program (m + 1) = .ok t →
        t = assigningTree name source.length e ∧
        (∀ v, run (assigning name source) .program (m + 1) =
            .ok (.environment (.ofList [(name, v)])) ↔
          run source .expression m = .ok (.value v)) ∧
        ((∃ v, run source .expression m = .ok (.value v)) ∨
          ∃ fault, run source .expression m = .error fault ∧
            run (assigning name source) .program (m + 1) =
              .error (fault.relocate (valueOffset name))) := by
  obtain ⟨e, nesting, htree, hparse⟩ := parse_assigning hname hkeyword h
  refine ⟨e, htree, fun m => ⟨?_, ?_, ?_⟩⟩
  · constructor
    · rintro ⟨t, ht⟩
      have hroom := ((hparse m t).2.1 ht).1
      exact ⟨.expr e, (hparse m _).1.2 ⟨hroom, rfl⟩⟩
    · rintro ⟨t, ht⟩
      have hroom := ((hparse m t).1.1 ht).1
      exact ⟨_, (hparse m _).2.2 ⟨hroom, rfl⟩⟩
  · intro t ht
    exact ((hparse m t).1.1 ht).2.symm
  · intro t ht
    obtain ⟨hroom, rfl⟩ := (hparse m t).2.1 ht
    rw [run_of_parse_ok ht, run_of_parse_ok ((hparse m (.expr e)).1.2 ⟨hroom, rfl⟩)]
    exact ⟨rfl, fun v => Tree.run_assigning_eq_ok_iff, Tree.run_assigning_cases name _ e⟩

/-- The product in `2*(9223372036854775807){}` overflows, and so it does as the value of `x`. -/
theorem modes_agree_overflow :
    assigning "x" "2*(9223372036854775807)\x7b\x7d" =
      "BEGIN x := 2*(9223372036854775807)\x7b\x7d END." ∧
    (∃ t, parse (assigning "x" "2*(9223372036854775807)\x7b\x7d") .program 2 = .ok t) ∧
    ∃ fault, run "2*(9223372036854775807)\x7b\x7d" .expression 1 = .error fault ∧
      run (assigning "x" "2*(9223372036854775807)\x7b\x7d") .program 2 =
        .error (fault.relocate (valueOffset "x")) := by
  have hname : IsWord "x".toList := ⟨'x', [], rfl, by decide +kernel, by simp⟩
  have hkeyword : ∀ k : Keyword, "x" ≠ k.text := by
    intro k
    cases k <;> decide
  have hparse : parse "2*(9223372036854775807)\x7b\x7d" .expression 1 =
      .ok (.expr (.binary .mul (.number ⟨2, by decide, by decide⟩ ⟨0, 1⟩)
        (.number ⟨9223372036854775807, by decide, by decide⟩ ⟨3, 22⟩) ⟨0, 22⟩)) := by
    decide +kernel
  have hrun : run "2*(9223372036854775807)\x7b\x7d" .expression 1 =
      .error ⟨.integerOverflow, ⟨0, 22⟩⟩ := by
    decide +kernel
  obtain ⟨e, he, hagree⟩ := modes_agree hname hkeyword hparse
  obtain ⟨haccepted, -, hresult⟩ := hagree 1
  obtain ⟨t, ht⟩ := haccepted.2 ⟨_, hparse⟩
  refine ⟨by decide +kernel, ⟨t, ht⟩, ?_⟩
  rcases (hresult t ht).2.2 with ⟨v, hv⟩ | hfault
  · rw [hrun] at hv
    cases hv
  · exact hfault

end MiniPascal

/-
# Reading without a limit

`Reads c ts ds d` says that the grammar leads the parser from the configuration `c` over the tokens
`ts` to the configuration `d`, and that `ds` are the numbers of groups that are open in front of
each of these tokens.  Neither the end of the source nor a limit on the nesting plays a part.  Main
statements:

* `Reads.trans`, `Reads.exists_of_append` : readings are composed and split;
* `Reads.unique` : the tokens determine where a reading leads and what is open on the way;
* `completable` : every configuration leads on to the end of some source.
-/
import MiniPascal.Proofs.Parser.Moves

namespace MiniPascal

namespace Config

/-- The parser reads the tokens from the first configuration to the last one. -/
inductive Reads : Config → List Token → List Nat → Config → Prop
  | nil (c : Config) : Reads c [] [] c
  | cons {c d : Config} {t : Token} {m : Move} {ts : List Token} {ds : List Nat} :
      c.move? t = some m → Reads m.next ts ds d → Reads c (t :: ts) (c.groups :: ds) d

/-! ## Composing and splitting -/

/-- A move reads one token. -/
theorem Reads.single {c : Config} {t : Token} {m : Move} (h : c.move? t = some m) :
    Reads c [t] [c.groups] m.next :=
  .cons h (.nil m.next)

/-- Readings are composed. -/
theorem Reads.trans {c d e : Config} {ts us : List Token} {ds es : List Nat}
    (h : Reads c ts ds d) (hrest : Reads d us es e) : Reads c (ts ++ us) (ds ++ es) e := by
  induction h with
  | nil c => exact hrest
  | cons hmove _ ih => exact Reads.cons hmove (ih hrest)

/-- A reading of at least one token starts with a move. -/
theorem Reads.exists_move {c e : Config} {t : Token} {ts : List Token} {ds : List Nat}
    (h : Reads c (t :: ts) ds e) :
    ∃ m es, c.move? t = some m ∧ ds = c.groups :: es ∧ Reads m.next ts es e := by
  cases h with
  | cons hmove hrest => exact ⟨_, _, hmove, rfl, hrest⟩

/-- A reading is split at any of its tokens. -/
theorem Reads.exists_of_append {c e : Config} {ts us : List Token} {ds : List Nat}
    (h : Reads c (ts ++ us) ds e) :
    ∃ as bs d, ds = as ++ bs ∧ Reads c ts as d ∧ Reads d us bs e := by
  induction ts generalizing c ds with
  | nil => exact ⟨[], ds, c, rfl, .nil c, h⟩
  | cons t ts ih =>
    obtain ⟨m, es, hmove, rfl, hrest⟩ := h.exists_move
    obtain ⟨as, bs, d, rfl, hfront, hback⟩ := ih hrest
    exact ⟨c.groups :: as, bs, d, rfl, .cons hmove hfront, hback⟩

/-- **A reading is determined by its tokens.** -/
theorem Reads.unique {c d e : Config} {ts : List Token} {ds es : List Nat}
    (h : Reads c ts ds d) (h' : Reads c ts es e) : ds = es ∧ d = e := by
  induction h generalizing es e with
  | nil c =>
    cases h'
    exact ⟨rfl, rfl⟩
  | cons hmove _ ih =>
    obtain ⟨m, fs, hmove', rfl, hrest⟩ := h'.exists_move
    rw [hmove] at hmove'
    cases hmove'
    obtain ⟨rfl, rfl⟩ := ih hrest
    exact ⟨rfl, rfl⟩

/-! ## Open groups -/

/-- There is one number of open groups for each token. -/
theorem Reads.length_eq {c d : Config} {ts : List Token} {ds : List Nat} (h : Reads c ts ds d) :
    ds.length = ts.length := by
  induction h with
  | nil c => rfl
  | cons _ _ ih => rw [List.length_cons, List.length_cons, ih]

/-- A move opens at most one group. -/
theorem groups_next_le {c : Config} {t : Token} {m : Move} (h : c.move? t = some m) :
    m.next.groups ≤ c.groups + 1 := by
  have hcounted := counted_of_move? h
  cases m with
  | shift next => exact Nat.le_succ_of_le hcounted
  | enter next => exact Nat.le_of_eq hcounted

/-- Each token opens at most one group. -/
theorem Reads.groups_le {c d : Config} {ts : List Token} {ds : List Nat} (h : Reads c ts ds d) :
    (∀ n ∈ ds, n ≤ c.groups + ts.length) ∧ d.groups ≤ c.groups + ts.length := by
  induction h with
  | nil c => simp
  | @cons c d t m ts ds hmove _ ih =>
    have hnext := groups_next_le hmove
    obtain ⟨hds, hd⟩ := ih
    rw [List.length_cons]
    constructor
    · intro n hn
      rcases List.mem_cons.1 hn with rfl | hn
      · omega
      · have := hds n hn
        omega
    · omega

/-! ## Every configuration leads on to an end -/

/-- A token of the kind, for places where its text and its span do not matter. -/
def sample (kind : Kind) : Token := ⟨kind, kind.description, .emptyAt 0⟩

/-- The configuration leads on to the end of some source. -/
def Completable (c : Config) : Prop :=
  ∃ ts ds d tree, Reads c ts ds d ∧ d.tree? = some tree

/-- A configuration that leads to one that leads on to an end does so itself. -/
theorem Completable.of_move {c : Config} {t : Token} {m : Move} (h : c.move? t = some m)
    (hnext : Completable m.next) : Completable c := by
  obtain ⟨ts, ds, d, tree, hreads, htree⟩ := hnext
  exact ⟨t :: ts, c.groups :: ds, d, tree, .cons h hreads, htree⟩

theorem completable_dot (block : Stmt) : Completable (dot block) :=
  .of_move (t := sample (.symbol .dot)) rfl ⟨[], [], finished block, .stmt block, .nil _, rfl⟩

/-- The blocks that are open can be closed one after another. -/
theorem completable_endBlock (blocks : Blocks) (ending : Span) :
    Completable (endBlock blocks ending) := by
  obtain ⟨inner, outer⟩ := blocks
  induction outer generalizing inner ending with
  | nil => exact completable_dot _
  | cons block outer ih => exact .of_move (t := sample (.keyword .blockEnd)) rfl (ih _ _)

/-- The parentheses that are open can be closed, and then the expression's surroundings. -/
theorem completable_operator (goal : Goal) (sum : Option Pending) (term : Expr)
    (outer : List Level) : Completable (operator goal sum term outer) := by
  induction outer generalizing sum term with
  | cons level outer ih => exact .of_move (t := sample (.symbol .rightParen)) rfl (ih _ _)
  | nil =>
    cases goal with
    | whole => exact ⟨[], [], _, _, .nil _, rfl⟩
    | assignment v blocks =>
      exact .of_move (t := sample (.keyword .blockEnd)) rfl (completable_endBlock _ _)

theorem completable_operand (goal : Goal) (level : Level) (outer : List Level) :
    Completable (operand goal level outer) :=
  .of_move (t := sample (.integer .zero)) rfl (completable_operator _ _ _ _)

theorem completable_statement (blocks : Blocks) : Completable (statement blocks) :=
  .of_move (t := sample (.keyword .blockEnd)) rfl (completable_endBlock _ _)

/-- **Every configuration leads on to the end of some source.** -/
theorem completable (c : Config) : Completable c := by
  cases c with
  | begin => exact .of_move (t := sample (.keyword .blockBegin)) rfl (completable_statement _)
  | statement blocks => exact completable_statement blocks
  | target v blocks =>
    exact .of_move (t := sample (.symbol .assign)) rfl (completable_operand _ _ _)
  | operand goal level outer => exact completable_operand goal level outer
  | operator goal sum term outer => exact completable_operator goal sum term outer
  | separator blocks =>
    exact .of_move (t := sample (.keyword .blockEnd)) rfl (completable_endBlock _ _)
  | dot block => exact completable_dot block
  | finished block => exact ⟨[], [], finished block, .stmt block, .nil _, rfl⟩

end Config

end MiniPascal

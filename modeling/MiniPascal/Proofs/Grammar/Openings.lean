/-
# The groups of a derivation

Blocks, parentheses, and signs with their operands are the groups of a derivation.  Each is opened
by one token, and its depth is the number of groups that are open from there on, itself included.
The largest depth is the number of groups that are ever open at once.  Main statements:

* `Expression.openings_eq` : a chain of operators opens no more groups, and no deeper ones, than its
  operands do;
* `Derivation.openings_eq_rises` : a group is opened where the number of open groups rises;
* `Derivation.nesting_le_iff_openings` : the largest depth is the bound of all depths.
-/
import MiniPascal.Proofs.Grammar.Derivation

namespace MiniPascal

namespace Grammar

/-! ## Groups in the order in which they are opened -/

/-- The start of a group. -/
structure Opening where
  /-- The token that opens the group. -/
  token : Token
  /-- The number of groups that are open behind it. -/
  depth : Nat

mutual

/-- The groups of a factor inside `n` groups, in the order in which they are opened. -/
def Factor.openings (n : Nat) : Factor → List Opening
  | .signed _ mark operand => ⟨mark.token, n + 1⟩ :: operand.openings (n + 1)
  | .integer _ _ => []
  | .group opening inner _ => ⟨opening.token, n + 1⟩ :: inner.openings (n + 1)
  | .name _ => []

/-- The same for a repetition of factors. -/
def Factors.openings (n : Nat) : Factors → List Opening
  | .nil => []
  | .cons _ _ _ factor rest => factor.openings n ++ rest.openings n

/-- The same for a term. -/
def Term.openings (n : Nat) : Term → List Opening
  | .mk first rest => first.openings n ++ rest.openings n

/-- The same for a repetition of terms. -/
def Terms.openings (n : Nat) : Terms → List Opening
  | .nil => []
  | .cons _ _ _ term rest => term.openings n ++ rest.openings n

/-- The same for an expression. -/
def Expression.openings (n : Nat) : Expression → List Opening
  | .mk first rest => first.openings n ++ rest.openings n

end

mutual

/-- The groups of a block inside `n` groups, in the order in which they are opened. -/
def Block.openings (n : Nat) : Block → List Opening
  | .mk opening body _ => ⟨opening.token, n + 1⟩ :: body.openings (n + 1)

/-- The same for statements. -/
def Statements.openings (n : Nat) : Statements → List Opening
  | .last statement => statement.openings n
  | .cons statement _ rest => statement.openings n ++ rest.openings n

/-- The same for a statement. -/
def Statement.openings (n : Nat) : Statement → List Opening
  | .block inner => inner.openings n
  | .assignment _ _ value => value.openings n
  | .empty => []

end

namespace Derivation

variable {mode : Mode}

/-- The groups of a whole source, in the order in which they are opened. -/
def openings : Derivation mode → List Opening
  | .program block _ => block.openings 0
  | .expression e => e.openings 0

/-- The largest number of groups that are open at once. -/
def nesting (d : Derivation mode) : Nat := d.openings.foldr (fun o n => max o.depth n) 0

end Derivation

/-! ## Chains of operators -/

/-- The factors of a repetition. -/
def Factors.operands : Factors → List Factor
  | .nil => []
  | .cons _ _ _ factor rest => factor :: rest.operands

/-- The factors of a term. -/
def Term.operands : Term → List Factor
  | .mk first rest => first :: rest.operands

/-- The factors of a repetition of terms. -/
def Terms.operands : Terms → List Factor
  | .nil => []
  | .cons _ _ _ term rest => term.operands ++ rest.operands

/-- The operands of the operators of an expression: its factors, in the order of the source. -/
def Expression.operands : Expression → List Factor
  | .mk first rest => first.operands ++ rest.operands

theorem Factors.openings_eq (fs : Factors) (n : Nat) :
    fs.openings n = fs.operands.flatMap (Factor.openings n) := by
  cases fs with
  | nil => rfl
  | cons op multiplicative mark factor rest =>
    rw [Factors.openings, Factors.openings_eq rest, Factors.operands, List.flatMap_cons]
termination_by structural fs

theorem Term.openings_eq (t : Term) (n : Nat) :
    t.openings n = t.operands.flatMap (Factor.openings n) := by
  obtain ⟨first, rest⟩ := t
  rw [Term.openings, Factors.openings_eq, Term.operands, List.flatMap_cons]

theorem Terms.openings_eq (ts : Terms) (n : Nat) :
    ts.openings n = ts.operands.flatMap (Factor.openings n) := by
  cases ts with
  | nil => rfl
  | cons op additive mark term rest =>
    rw [Terms.openings, Term.openings_eq, Terms.openings_eq rest, Terms.operands,
      List.flatMap_append]
termination_by structural ts

/-- **A chain of operators opens the groups of its operands and no others**, at the depths that they
have without the chain. -/
theorem Expression.openings_eq (e : Expression) (n : Nat) :
    e.openings n = e.operands.flatMap (Factor.openings n) := by
  obtain ⟨first, rest⟩ := e
  rw [Expression.openings, Term.openings_eq, Terms.openings_eq, Expression.operands,
    List.flatMap_append]

/-! ## Where the number of open groups rises -/

/-- The tokens behind which more groups are open than in front of them, from the number of open
groups in front of each. -/
def rises : List Token → List Nat → List Opening
  | t :: ts, n :: m :: ds =>
    if n < m then ⟨t, m⟩ :: rises ts (m :: ds) else rises ts (m :: ds)
  | _, _ => []

theorem rises_nil (ts : List Token) : rises ts [] = [] := by
  cases ts <;> rfl

/-- The numbers of open groups go on, if at all, with one of at most `n`. -/
def StartsWithin (n : Nat) (ds : List Nat) : Prop := ∀ m ∈ ds.head?, m ≤ n

theorem startsWithin_nil (n : Nat) : StartsWithin n [] := by
  intro m hm
  cases hm

theorem startsWithin_cons {n m : Nat} (h : m ≤ n) (ds : List Nat) : StartsWithin n (m :: ds) := by
  intro k hk
  cases hk
  exact h

theorem StartsWithin.mono {n m : Nat} {ds : List Nat} (h : StartsWithin n ds) (hnm : n ≤ m) :
    StartsWithin m ds :=
  fun k hk => Nat.le_trans (h k hk) hnm

/-- A token behind which no more groups are open is passed over. -/
theorem rises_cons_of_startsWithin {n : Nat} {ds : List Nat} (h : StartsWithin n ds) (t : Token)
    (ts : List Token) : rises (t :: ts) (n :: ds) = rises ts ds := by
  cases ds with
  | nil => simp [rises]
  | cons m ds => rw [rises, if_neg (Nat.not_lt.2 (h m rfl))]

/-- A token that opens a group is listed. -/
theorem rises_cons_succ (t : Token) (ts : List Token) (n : Nat) (ds : List Nat) :
    rises (t :: ts) (n :: (n + 1) :: ds) = ⟨t, n + 1⟩ :: rises ts ((n + 1) :: ds) := by
  rw [rises, if_pos (Nat.lt_succ_self n)]

/-! ## What is open in front of a phrase -/

/-- In front of a factor as many groups are open as around it. -/
theorem Factor.depths_eq_cons (f : Factor) (n : Nat) : ∃ tail, f.depths n = n :: tail := by
  cases f <;> exact ⟨_, rfl⟩

theorem Term.depths_eq_cons (t : Term) (n : Nat) : ∃ tail, t.depths n = n :: tail := by
  obtain ⟨first, rest⟩ := t
  obtain ⟨tail, h⟩ := first.depths_eq_cons n
  exact ⟨tail ++ rest.depths n, by rw [Term.depths, h, List.cons_append]⟩

/-- In front of an expression as many groups are open as around it. -/
theorem Expression.depths_eq_cons (e : Expression) (n : Nat) : ∃ tail, e.depths n = n :: tail := by
  obtain ⟨first, rest⟩ := e
  obtain ⟨tail, h⟩ := first.depths_eq_cons n
  exact ⟨tail ++ rest.depths n, by rw [Expression.depths, h, List.cons_append]⟩

theorem Factors.startsWithin (fs : Factors) {n : Nat} {ds : List Nat} (h : StartsWithin n ds) :
    StartsWithin n (fs.depths n ++ ds) := by
  cases fs with
  | nil => exact h
  | cons op multiplicative mark factor rest => exact startsWithin_cons (Nat.le_refl n) _

theorem Terms.startsWithin (ts : Terms) {n : Nat} {ds : List Nat} (h : StartsWithin n ds) :
    StartsWithin n (ts.depths n ++ ds) := by
  cases ts with
  | nil => exact h
  | cons op additive mark term rest => exact startsWithin_cons (Nat.le_refl n) _

theorem Statement.startsWithin (s : Statement) {n : Nat} {ds : List Nat} (h : StartsWithin n ds) :
    StartsWithin n (s.depths n ++ ds) := by
  cases s with
  | block inner =>
    obtain ⟨opening, body, closing⟩ := inner
    exact startsWithin_cons (Nat.le_refl n) _
  | assignment target mark value => exact startsWithin_cons (Nat.le_refl n) _
  | empty => exact h

theorem Statements.startsWithin (b : Statements) {n : Nat} {ds : List Nat}
    (h : StartsWithin n ds) : StartsWithin n (b.depths n ++ ds) := by
  cases b with
  | last statement => exact statement.startsWithin h
  | cons statement semicolon rest =>
    rw [Statements.depths, List.append_assoc]
    exact statement.startsWithin (startsWithin_cons (Nat.le_refl n) _)

/-- In front of a statement, or of what stands behind an empty one, as many groups are open as
around it. -/
theorem Statement.depths_append_eq_cons (s : Statement) (n : Nat) (ds : List Nat) :
    ∃ tail, s.depths n ++ n :: ds = n :: tail := by
  cases s with
  | block inner =>
    obtain ⟨opening, body, closing⟩ := inner
    exact ⟨_, rfl⟩
  | assignment target mark value => exact ⟨_, rfl⟩
  | empty => exact ⟨ds, rfl⟩

/-- In front of the statements of a block its group is open. -/
theorem Statements.depths_append_eq_cons (b : Statements) (n : Nat) (ds : List Nat) :
    ∃ tail, b.depths n ++ n :: ds = n :: tail := by
  cases b with
  | last statement => exact statement.depths_append_eq_cons n ds
  | cons statement semicolon rest =>
    obtain ⟨tail, h⟩ := statement.depths_append_eq_cons n (rest.depths n)
    exact ⟨tail ++ n :: ds, by rw [Statements.depths, h, List.cons_append]⟩

/-! ## Groups are opened where the number rises -/

mutual

/-- The groups of a factor are opened where the number of open groups rises. -/
theorem Factor.rises_append (f : Factor) (n : Nat) (us : List Token) {ds : List Nat}
    (h : StartsWithin n ds) :
    rises (f.yield ++ us) (f.depths n ++ ds) = f.openings n ++ rises us ds := by
  cases f with
  | signed sign mark operand =>
    have hoperand := Factor.rises_append operand (n + 1) us (h.mono (Nat.le_succ n))
    obtain ⟨tail, htail⟩ := operand.depths_eq_cons (n + 1)
    rw [htail] at hoperand
    rw [Factor.yield, Factor.depths, Factor.openings, htail]
    exact (rises_cons_succ ..).trans (congrArg _ hoperand)
  | integer value literal => exact rises_cons_of_startsWithin h literal.token us
  | group opening inner closing =>
    have hinner := Expression.rises_append inner (n + 1) (closing.token :: us)
      (startsWithin_cons (Nat.le_refl (n + 1)) ds)
    rw [rises_cons_of_startsWithin (h.mono (Nat.le_succ n))] at hinner
    obtain ⟨tail, htail⟩ := inner.depths_eq_cons (n + 1)
    rw [htail] at hinner
    rw [Factor.yield, Factor.depths, Factor.openings, htail, List.cons_append, List.cons_append,
      List.append_assoc, List.append_assoc]
    exact (rises_cons_succ ..).trans (congrArg _ hinner)
  | name word => exact rises_cons_of_startsWithin h word.token us
termination_by structural f

theorem Factors.rises_append (fs : Factors) (n : Nat) (us : List Token) {ds : List Nat}
    (h : StartsWithin n ds) :
    rises (fs.yield ++ us) (fs.depths n ++ ds) = fs.openings n ++ rises us ds := by
  cases fs with
  | nil => rfl
  | cons op multiplicative mark factor rest =>
    have hfactor := Factor.rises_append factor n (rest.yield ++ us) (rest.startsWithin h)
    rw [Factors.rises_append rest n us h] at hfactor
    obtain ⟨tail, htail⟩ := factor.depths_eq_cons n
    rw [Factors.yield, Factors.depths, Factors.openings, List.cons_append, List.cons_append,
      List.append_assoc, List.append_assoc, List.append_assoc, rises_cons_of_startsWithin, hfactor]
    rw [htail]
    exact startsWithin_cons (Nat.le_refl n) _
termination_by structural fs

theorem Term.rises_append (t : Term) (n : Nat) (us : List Token) {ds : List Nat}
    (h : StartsWithin n ds) :
    rises (t.yield ++ us) (t.depths n ++ ds) = t.openings n ++ rises us ds := by
  obtain ⟨first, rest⟩ := t
  rw [Term.yield, Term.depths, Term.openings, List.append_assoc, List.append_assoc,
    List.append_assoc, Factor.rises_append first n _ (rest.startsWithin h),
    Factors.rises_append rest n us h]
termination_by structural t

theorem Terms.rises_append (ts : Terms) (n : Nat) (us : List Token) {ds : List Nat}
    (h : StartsWithin n ds) :
    rises (ts.yield ++ us) (ts.depths n ++ ds) = ts.openings n ++ rises us ds := by
  cases ts with
  | nil => rfl
  | cons op additive mark term rest =>
    have hterm := Term.rises_append term n (rest.yield ++ us) (rest.startsWithin h)
    rw [Terms.rises_append rest n us h] at hterm
    obtain ⟨tail, htail⟩ := term.depths_eq_cons n
    rw [Terms.yield, Terms.depths, Terms.openings, List.cons_append, List.cons_append,
      List.append_assoc, List.append_assoc, List.append_assoc, rises_cons_of_startsWithin, hterm]
    rw [htail]
    exact startsWithin_cons (Nat.le_refl n) _
termination_by structural ts

theorem Expression.rises_append (e : Expression) (n : Nat) (us : List Token) {ds : List Nat}
    (h : StartsWithin n ds) :
    rises (e.yield ++ us) (e.depths n ++ ds) = e.openings n ++ rises us ds := by
  obtain ⟨first, rest⟩ := e
  rw [Expression.yield, Expression.depths, Expression.openings, List.append_assoc,
    List.append_assoc, List.append_assoc, Term.rises_append first n _ (rest.startsWithin h),
    Terms.rises_append rest n us h]
termination_by structural e

end

mutual

/-- The groups of a block are opened where the number of open groups rises. -/
theorem Block.rises_append (b : Block) (n : Nat) (us : List Token) {ds : List Nat}
    (h : StartsWithin n ds) :
    rises (b.yield ++ us) (b.depths n ++ ds) = b.openings n ++ rises us ds := by
  obtain ⟨opening, body, closing⟩ := b
  have hbody := Statements.rises_append body (n + 1) (closing.token :: us)
    (startsWithin_cons (Nat.le_refl (n + 1)) ds)
  rw [rises_cons_of_startsWithin (h.mono (Nat.le_succ n))] at hbody
  obtain ⟨tail, htail⟩ := body.depths_append_eq_cons (n + 1) ds
  rw [htail] at hbody
  rw [Block.yield, Block.depths, Block.openings, List.cons_append, List.cons_append,
    List.append_assoc, List.append_assoc, List.singleton_append, List.singleton_append, htail]
  exact (rises_cons_succ ..).trans (congrArg _ hbody)
termination_by structural b

theorem Statements.rises_append (b : Statements) (n : Nat) (us : List Token) {ds : List Nat}
    (h : StartsWithin n ds) :
    rises (b.yield ++ us) (b.depths n ++ ds) = b.openings n ++ rises us ds := by
  cases b with
  | last statement => exact Statement.rises_append statement n us h
  | cons statement semicolon rest =>
    have hfirst := Statement.rises_append statement n (semicolon.token :: (rest.yield ++ us))
      (startsWithin_cons (Nat.le_refl n) (rest.depths n ++ ds))
    rw [rises_cons_of_startsWithin (rest.startsWithin h),
      Statements.rises_append rest n us h] at hfirst
    rw [Statements.yield, Statements.depths, Statements.openings, List.append_assoc,
      List.append_assoc, List.append_assoc]
    exact hfirst
termination_by structural b

theorem Statement.rises_append (s : Statement) (n : Nat) (us : List Token) {ds : List Nat}
    (h : StartsWithin n ds) :
    rises (s.yield ++ us) (s.depths n ++ ds) = s.openings n ++ rises us ds := by
  cases s with
  | block inner => exact Block.rises_append inner n us h
  | assignment target mark value =>
    have hvalue := Expression.rises_append value n us h
    obtain ⟨tail, htail⟩ := value.depths_eq_cons n
    rw [htail] at hvalue
    rw [Statement.yield, Statement.depths, Statement.openings, htail]
    exact (rises_cons_of_startsWithin (startsWithin_cons (Nat.le_refl n) _) ..).trans
      ((rises_cons_of_startsWithin (startsWithin_cons (Nat.le_refl n) _) ..).trans hvalue)
  | empty => rfl
termination_by structural s

end

namespace Derivation

variable {mode : Mode}

/-- **The groups of a source are opened where the number of open groups rises.** -/
theorem openings_eq_rises (d : Derivation mode) : d.openings = rises d.yield d.depths := by
  cases d with
  | program block dot =>
    have h := block.rises_append 0 [dot.token] (startsWithin_cons (Nat.le_refl 0) [])
    rw [rises_cons_of_startsWithin (startsWithin_nil 0), rises_nil, List.append_nil] at h
    exact h.symm
  | expression e =>
    have h := e.rises_append 0 [] (startsWithin_nil 0)
    rw [List.append_nil, List.append_nil, rises_nil, List.append_nil] at h
    exact h.symm

/-- No group is open in front of a source. -/
theorem depths_eq_cons (d : Derivation mode) : ∃ tail, d.depths = 0 :: tail := by
  cases d with
  | program block dot =>
    obtain ⟨opening, body, closing⟩ := block
    exact ⟨_, rfl⟩
  | expression e => exact e.depths_eq_cons 0

theorem nesting_le_iff_openings (d : Derivation mode) {m : Nat} :
    d.nesting ≤ m ↔ ∀ o ∈ d.openings, o.depth ≤ m := by
  rw [nesting]
  induction d.openings with
  | nil => simp
  | cons o os ih => rw [List.foldr_cons, Nat.max_le, ih, List.forall_mem_cons]

end Derivation

/-! ## Bounds on the number of open groups -/

/-- A number to which the open groups rise is one of the numbers of open groups. -/
theorem depth_mem_of_mem_rises {ts : List Token} {ds : List Nat} {o : Opening}
    (h : o ∈ rises ts ds) : o.depth ∈ ds := by
  fun_induction rises ts ds with
  | case1 t ts n m ds hlt ih =>
    rcases List.mem_cons.1 h with rfl | h
    · exact List.mem_cons_of_mem _ List.mem_cons_self
    · exact List.mem_cons_of_mem _ (ih h)
  | case2 t ts n m ds hlt ih => exact List.mem_cons_of_mem _ (ih h)
  | case3 => cases h

/-- If the open groups never rise beyond a bound, they keep to it. -/
theorem forall_le_of_rises {ts : List Token} {n m : Nat} {ds : List Nat}
    (hlength : ds.length < ts.length) (hn : n ≤ m) (h : ∀ o ∈ rises ts (n :: ds), o.depth ≤ m) :
    ∀ k ∈ n :: ds, k ≤ m := by
  induction ds generalizing ts n with
  | nil =>
    intro k hk
    rwa [List.mem_singleton.1 hk]
  | cons j ds ih =>
    cases ts with
    | nil => cases hlength
    | cons t ts =>
      rw [rises] at h
      have hj : j ≤ m := by
        split at h
        · exact h _ List.mem_cons_self
        · omega
      have hrest : ∀ o ∈ rises ts (j :: ds), o.depth ≤ m := by
        split at h
        · exact fun o ho => h o (List.mem_cons_of_mem _ ho)
        · exact h
      rw [List.forall_mem_cons]
      exact ⟨hn, ih (Nat.lt_of_succ_lt_succ hlength) hj hrest⟩

/-- The first token behind which the open groups are beyond a bound is the first opening beyond
it. -/
theorem find?_rises {ts us : List Token} {ds es : List Nat} {t : Token} {n k m : Nat}
    (hlength : ds.length = ts.length) (hds : ∀ j ∈ ds, j ≤ m) (hn : n ≤ m) (hk : m < k) :
    (rises (ts ++ t :: us) (ds ++ n :: k :: es)).find? (fun o => m < o.depth) = some ⟨t, k⟩ := by
  induction ts generalizing ds with
  | nil =>
    obtain rfl := List.length_eq_zero_iff.1 hlength
    rw [List.nil_append, List.nil_append, rises, if_pos (Nat.lt_of_le_of_lt hn hk)]
    exact List.find?_cons_of_pos (decide_eq_true hk)
  | cons u ts ih =>
    cases ds with
    | nil => cases hlength
    | cons j ds =>
      have hrest := ih (Nat.succ.inj hlength) fun i hi => hds i (List.mem_cons_of_mem _ hi)
      -- The number behind `u` is one of those that keep to the bound.
      obtain ⟨i, tail, htail, hi⟩ : ∃ i tail, ds ++ n :: k :: es = i :: tail ∧ i ≤ m := by
        cases ds with
        | nil => exact ⟨n, _, rfl, hn⟩
        | cons i ds => exact ⟨i, _, rfl, hds i (List.mem_cons_of_mem _ List.mem_cons_self)⟩
      rw [List.cons_append, List.cons_append, htail, rises, ← htail]
      split
      · rw [List.find?_cons_of_neg (by simpa using hi)]
        exact hrest
      · exact hrest

end Grammar

end MiniPascal

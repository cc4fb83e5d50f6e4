/-
# Reads of variables

Which variables a statement reads, and in which order, is seen from its text.  A read is covered if
its name is bound at the start or is the target of an assignment in front of the one with the read.
That is all it takes to know whether a run can meet an undefined variable, and which one: the first
read that is not covered, unless an operation in front of it fails.  Main statements:

* `Expr.exists_fails` : a failing evaluation has gone through its nodes, from left to right and
  operands first, up to the one that fails;
* `exists_failing_visit` : the same for the run of a statement;
* `Leads.bound_iff` : what is bound behind some assignments;
* `first_uncovered_read` : undefined variables are met exactly where the text shows.
-/
import MiniPascal.Proofs.Evaluation.Failures

namespace MiniPascal

/-! ## What a statement reads -/

/-- The variables that the expression reads, from left to right. -/
def Expr.reads : Expr → List Variable
  | number _ _ => []
  | var v => [v]
  | unary _ operand _ => operand.reads
  | binary _ left right _ => left.reads ++ right.reads

/-- A read of a variable on the right-hand side of an assignment. -/
structure Read where
  /-- The assignments in front of the one with the read. -/
  front : List Assignment
  /-- The variable where it is read. -/
  source : Variable

/-- The reads of the assignments, which come behind those in `front`. -/
def readsFrom (front : List Assignment) : List Assignment → List Read
  | [] => []
  | a :: rest => a.value.reads.map (⟨front, ·⟩) ++ readsFrom (front ++ [a]) rest

/-- The reads of the statement in the order of the source. -/
def Stmt.reads (s : Stmt) : List Read := readsFrom [] s.assignments

/-- The name is bound to a value. -/
def Environment.Bound (env : Environment) (name : String) : Prop :=
  ∃ value, env.get? name = some value

/-- The name that is read is bound at the start, or an assignment in front is for it. -/
def Read.Covered (env : Environment) (r : Read) : Prop :=
  env.Bound r.source.name ∨ ∃ a ∈ r.front, a.target.name = r.source.name

instance (env : Environment) (name : String) : Decidable (env.Bound name) :=
  decidable_of_iff ((env.get? name).isSome = true) Option.isSome_iff_exists

instance (env : Environment) (r : Read) : Decidable (r.Covered env) :=
  inferInstanceAs (Decidable (_ ∨ _))

/-! ## The order of evaluation -/

/-- The nodes of the expression in the order in which they are evaluated: from left to right, and
each node behind its operands. -/
def Expr.nodes : Expr → List Expr
  | number value span => [number value span]
  | var v => [var v]
  | unary sign operand span => operand.nodes ++ [unary sign operand span]
  | binary op left right span => left.nodes ++ right.nodes ++ [binary op left right span]

/-- A node on the right-hand side of an assignment, where a run evaluates it. -/
structure Visit where
  /-- The assignments in front of the one with the node. -/
  front : List Assignment
  /-- The node. -/
  node : Expr

/-- The nodes of the assignments, which come behind those in `front`. -/
def visitsFrom (front : List Assignment) : List Assignment → List Visit
  | [] => []
  | a :: rest => a.value.nodes.map (⟨front, ·⟩) ++ visitsFrom (front ++ [a]) rest

/-- The nodes of the statement in the order in which a run evaluates them. -/
def Stmt.visits (s : Stmt) : List Visit := visitsFrom [] s.assignments

/-- The read that takes place where a node is evaluated, if it is a variable. -/
def Visit.read? : Visit → Option Read
  | ⟨front, .var v⟩ => some ⟨front, v⟩
  | _ => none

/-- Where the read takes place. -/
def Read.visit (r : Read) : Visit := ⟨r.front, .var r.source⟩

/-- The node has a value, in the environment that the assignments in front of it leave. -/
def Visit.Valued (env : Environment) (visit : Visit) : Prop :=
  ∃ mid value, Leads env visit.front mid ∧ visit.node.evaluate mid = .ok value

variable {front as bs : List Assignment} {env mid after : Environment} {fault : Fault}

theorem Visit.read?_eq_some_iff {visit : Visit} {r : Read} :
    visit.read? = some r ↔ visit = r.visit := by
  obtain ⟨front, node⟩ := visit
  obtain ⟨front', v⟩ := r
  cases node <;> simp [read?, Read.visit]

/-- The reads of an expression are the variables among its nodes. -/
theorem Expr.filterMap_nodes (e : Expr) :
    (e.nodes.map (Visit.mk front)).filterMap Visit.read? = e.reads.map (Read.mk front) := by
  induction e with
  | number value span => rfl
  | var v => rfl
  | unary sign operand span ih =>
    rw [nodes, reads, List.map_append, List.filterMap_append, ih]
    exact List.append_nil _
  | binary op left right span ihleft ihright =>
    rw [nodes, reads, List.map_append, List.map_append, List.filterMap_append,
      List.filterMap_append, ihleft, ihright, List.map_append]
    exact List.append_nil _

/-- The reads of a statement are the variables among its nodes. -/
theorem filterMap_visitsFrom (front as : List Assignment) :
    (visitsFrom front as).filterMap Visit.read? = readsFrom front as := by
  induction as generalizing front with
  | nil => rfl
  | cons a as ih => rw [visitsFrom, readsFrom, List.filterMap_append, Expr.filterMap_nodes, ih]

theorem visitsFrom_append (front as bs : List Assignment) :
    visitsFrom front (as ++ bs) = visitsFrom front as ++ visitsFrom (front ++ as) bs := by
  induction as generalizing front with
  | nil => rw [List.nil_append, List.append_nil, visitsFrom, List.nil_append]
  | cons a as ih =>
    rw [List.cons_append, visitsFrom, visitsFrom, ih, List.append_assoc, List.append_assoc]
    rfl

/-! ## Where an evaluation fails -/

namespace Expr

variable {e : Expr}

/-- If an expression has a value, so have all its nodes. -/
theorem exists_value_of_mem_nodes {v : Value} (h : e.evaluate env = .ok v) :
    ∀ d ∈ e.nodes, ∃ w, d.evaluate env = .ok w := by
  induction e generalizing v with
  | number value span =>
    intro d hd
    rw [List.mem_singleton.1 hd]
    exact ⟨v, h⟩
  | var x =>
    intro d hd
    rw [List.mem_singleton.1 hd]
    exact ⟨v, h⟩
  | unary sign operand span ih =>
    obtain ⟨w, hoperand, -⟩ := bind_eq_ok_iff.1 ((evaluate_unary ..).symm.trans h)
    intro d hd
    rcases List.mem_append.1 hd with hd | hd
    · exact ih hoperand d hd
    · rw [List.mem_singleton.1 hd]
      exact ⟨v, h⟩
  | binary op left right span ihleft ihright =>
    obtain ⟨l, hleft, hrest⟩ := bind_eq_ok_iff.1 ((evaluate_binary ..).symm.trans h)
    obtain ⟨r, hright, -⟩ := bind_eq_ok_iff.1 hrest
    intro d hd
    rcases List.mem_append.1 hd with hd | hd
    · rcases List.mem_append.1 hd with hd | hd
      · exact ihleft hleft d hd
      · exact ihright hright d hd
    · rw [List.mem_singleton.1 hd]
      exact ⟨v, h⟩

/-- **A failing evaluation** has gone through the nodes up to the one that fails. -/
theorem exists_fails (h : e.evaluate env = .error fault) :
    ∃ earlier node later, e.nodes = earlier ++ node :: later ∧
      (∀ d ∈ earlier, ∃ w, d.evaluate env = .ok w) ∧ node.Fails env fault := by
  induction e with
  | number value span =>
    rw [evaluate_number] at h
    cases h
  | var v => exact ⟨[], _, [], rfl, by simp, evaluate_var_eq_error_iff.1 h⟩
  | unary sign operand span ih =>
    rcases evaluate_unary_eq_error_iff.1 h with hoperand | hfails
    · obtain ⟨earlier, node, later, hnodes, hvalues, hnode⟩ := ih hoperand
      exact ⟨earlier, node, later ++ [unary sign operand span], by simp [nodes, hnodes], hvalues,
        hnode⟩
    · refine ⟨operand.nodes, _, [], rfl, ?_, hfails⟩
      cases hfails with
      | signed hoperand _ => exact exists_value_of_mem_nodes hoperand
  | binary op left right span ihleft ihright =>
    rcases evaluate_binary_eq_error_iff.1 h with hleft | ⟨l, hl, hright⟩ | hfails
    · obtain ⟨earlier, node, later, hnodes, hvalues, hnode⟩ := ihleft hleft
      exact ⟨earlier, node, later ++ right.nodes ++ [binary op left right span],
        by simp [nodes, hnodes], hvalues, hnode⟩
    · obtain ⟨earlier, node, later, hnodes, hvalues, hnode⟩ := ihright hright
      refine ⟨left.nodes ++ earlier, node, later ++ [binary op left right span],
        by simp [nodes, hnodes], ?_, hnode⟩
      intro d hd
      exact (List.mem_append.1 hd).elim (exists_value_of_mem_nodes hl d) (hvalues d)
    · refine ⟨left.nodes ++ right.nodes, _, [], rfl, ?_, hfails⟩
      obtain ⟨l, r, hl, hr⟩ : ∃ l r, left.evaluate env = .ok l ∧ right.evaluate env = .ok r := by
        cases hfails with
        | divisor hl hr _ _ => exact ⟨_, _, hl, hr⟩
        | combined hl hr _ => exact ⟨_, _, hl, hr⟩
      intro d hd
      exact (List.mem_append.1 hd).elim (exists_value_of_mem_nodes hl d)
        (exists_value_of_mem_nodes hr d)

end Expr

/-! ## Where a run fails -/

/-- One assignment more is carried out. -/
theorem Leads.concat (h : Leads env as mid) {a : Assignment} {v : Value}
    (ha : a.value.evaluate mid = .ok v) : Leads env (as ++ [a]) (mid.assign a.target.name v) := by
  induction h with
  | nil env => exact .cons ha (.nil _)
  | cons hvalue _ ih => exact .cons hvalue (ih ha)

/-- If the assignments are carried out, all their nodes have values. -/
theorem Leads.valued (hfront : Leads env front mid) (h : Leads mid as after) :
    ∀ visit ∈ visitsFrom front as, visit.Valued env := by
  induction h generalizing front with
  | nil mid =>
    intro visit hvisit
    cases hvisit
  | @cons mid after a v rest hvalue _ ih =>
    intro visit hvisit
    rcases List.mem_append.1 hvisit with hvisit | hvisit
    · obtain ⟨node, hnode, rfl⟩ := List.mem_map.1 hvisit
      obtain ⟨w, hw⟩ := Expr.exists_value_of_mem_nodes hvalue node hnode
      exact ⟨mid, w, hfront, hw⟩
    · exact ih (hfront.concat hvalue) visit hvisit

/-- **A failing run** has gone through the nodes of the assignments up to the one that fails. -/
theorem exists_failing_visit (h : runAll env as = (after, some fault)) :
    ∃ earlier visit later, visitsFrom [] as = earlier ++ visit :: later ∧
      (∀ q ∈ earlier, q.Valued env) ∧ Leads env visit.front after ∧
      visit.node.Fails after fault := by
  obtain ⟨front, a, back, rfl, hfront, ha⟩ := runAll_eq_error_iff.1 h
  obtain ⟨earlier, node, later, hnodes, hvalues, hfails⟩ := Expr.exists_fails ha
  refine ⟨visitsFrom [] front ++ earlier.map (Visit.mk front), ⟨front, node⟩,
    later.map (Visit.mk front) ++ visitsFrom (front ++ [a]) back, ?_, ?_, hfront, hfails⟩
  · rw [visitsFrom_append, List.nil_append, visitsFrom, hnodes]
    simp
  · intro q hq
    rcases List.mem_append.1 hq with hq | hq
    · exact Leads.valued (.nil env) hfront q hq
    · obtain ⟨d, hd, rfl⟩ := List.mem_map.1 hq
      obtain ⟨w, hw⟩ := hvalues d hd
      exact ⟨after, w, hfront, hw⟩

/-! ## What is bound -/

theorem Environment.bound_assign_iff {name other : String} {v : Value} :
    (env.assign other v).Bound name ↔ env.Bound name ∨ other = name := by
  rcases eq_or_ne name other with rfl | hne
  · simp [Bound, get?_assign_self]
  · simp [Bound, get?_assign_of_ne hne, Ne.symm hne]

/-- **What is bound behind some assignments**: what was bound before, and their targets. -/
theorem Leads.bound_iff (h : Leads env as after) {name : String} :
    after.Bound name ↔ env.Bound name ∨ ∃ a ∈ as, a.target.name = name := by
  induction h with
  | nil env => simp
  | cons _ _ ih =>
    simp only [ih, Environment.bound_assign_iff, List.mem_cons, exists_eq_or_imp, or_assoc]

/-! ## Covered reads -/

variable {r : Read} {visit : Visit}

/-- Where the assignments in front of a read lead, its name is bound if the read is covered. -/
theorem Leads.bound_iff_covered (h : Leads env r.front mid) :
    mid.Bound r.source.name ↔ r.Covered env :=
  h.bound_iff

/-- A read that gives a value is covered. -/
theorem Visit.Valued.covered (h : r.visit.Valued env) : r.Covered env := by
  obtain ⟨mid, value, hfront, hvalue⟩ := h
  refine hfront.bound_iff_covered.1 ?_
  rw [Read.visit, Expr.evaluate_var, Variable.evaluate] at hvalue
  cases hget : mid.get? r.source.name with
  | some bound => exact ⟨bound, hget⟩
  | none =>
    rw [hget] at hvalue
    cases hvalue

/-- **A node fails in one of two ways**: as a read that is not covered, of an undefined variable, or
as an operation. -/
theorem Visit.fails_cases (hfront : Leads env visit.front after)
    (hfails : visit.node.Fails after fault) :
    (∃ r, visit.read? = some r ∧ ¬r.Covered env ∧
      fault = ⟨.undefinedVariable r.source.name, r.source.span⟩) ∨
      (visit.read? = none ∧ fault.cause.faultClass = .arithmetic) := by
  obtain ⟨front, node⟩ := visit
  cases hfails with
  | @unbound v hget =>
    refine Or.inl ⟨⟨front, v⟩, rfl, ?_, rfl⟩
    intro hcovered
    obtain ⟨value, hvalue⟩ := (Leads.bound_iff_covered (r := ⟨front, v⟩) hfront).2 hcovered
    rw [hget] at hvalue
    cases hvalue
  | signed _ _ => exact Or.inr ⟨rfl, rfl⟩
  | divisor _ _ _ _ => exact Or.inr ⟨rfl, rfl⟩
  | combined _ _ _ => exact Or.inr ⟨rfl, rfl⟩

/-- Where a read of some nodes takes place. -/
theorem exists_visit_of_reads {visits : List Visit} {before rest : List Read}
    (h : visits.filterMap Visit.read? = before ++ r :: rest) :
    ∃ earlier later, visits = earlier ++ r.visit :: later ∧
      earlier.filterMap Visit.read? = before := by
  obtain ⟨front, back, rfl, hfront, hback⟩ := List.filterMap_eq_append_iff.1 h
  obtain ⟨between, visit, later, rfl, hbetween, hvisit, -⟩ := List.filterMap_eq_cons_iff.1 hback
  refine ⟨front ++ between, later, ?_, ?_⟩
  · rw [Visit.read?_eq_some_iff.1 hvisit, List.append_assoc]
  · rw [List.filterMap_append, hfront, List.filterMap_eq_nil_iff.2 hbetween, List.append_nil]

/-- Of two places in a list, either they are the same or one is in front of the other. -/
theorem places_cases {α : Type} {xs ys front back : List α} {a b : α}
    (h : xs ++ a :: ys = front ++ b :: back) : (xs = front ∧ a = b) ∨ a ∈ front ∨ b ∈ xs := by
  rcases List.append_eq_append_iff.1 h with ⟨between, rfl, hbehind⟩ | ⟨between, rfl, hbehind⟩
  · cases between with
    | nil => exact Or.inl ⟨(List.append_nil xs).symm, (List.cons.inj hbehind).1⟩
    | cons c between =>
      obtain rfl := (List.cons.inj hbehind).1
      exact Or.inr (Or.inl (by simp))
  · cases between with
    | nil => exact Or.inl ⟨List.append_nil front, (List.cons.inj hbehind).1.symm⟩
    | cons c between =>
      obtain rfl := (List.cons.inj hbehind).1
      exact Or.inr (Or.inr (by simp))

/-- **Undefined variables are met exactly where the text shows.**  If all reads of a statement are
covered, its run meets no undefined variable.  Otherwise the run fails: at the first read that is
not covered, with everything in front of it evaluated, or else at an operation in front of that
read, with a fault of arithmetic. -/
theorem first_uncovered_read (s : Stmt) (env : Environment) :
    ((∀ r ∈ s.reads, r.Covered env) → ∀ after fault, s.execute env = (after, some fault) →
      fault.cause.faultClass ≠ .naming) ∧
    ∀ before r rest, s.reads = before ++ r :: rest → (∀ q ∈ before, q.Covered env) →
      ¬r.Covered env →
      ∃ earlier later after fault, s.visits = earlier ++ r.visit :: later ∧
        earlier.filterMap Visit.read? = before ∧ s.execute env = (after, some fault) ∧
        ((fault = ⟨.undefinedVariable r.source.name, r.source.span⟩ ∧ Leads env r.front after ∧
            ∀ q ∈ earlier, q.Valued env) ∨
          (fault.cause.faultClass = .arithmetic ∧
            ∃ q ∈ earlier, Leads env q.front after ∧ q.node.Fails after fault)) := by
  have hreads : s.visits.filterMap Visit.read? = s.reads := filterMap_visitsFrom [] s.assignments
  have hrun : s.execute env = runAll env s.assignments := s.execute_eq_runAll env
  constructor
  · intro hcovered after fault hexecute hnaming
    obtain ⟨earlier, visit, later, hvisits, -, hfront, hfails⟩ :=
      exists_failing_visit (hrun.symm.trans hexecute)
    rcases visit.fails_cases hfront hfails with ⟨r, hread, huncovered, -⟩ | ⟨-, harithmetic⟩
    · refine huncovered (hcovered r ?_)
      rw [← hreads, Stmt.visits, hvisits]
      exact List.mem_filterMap.2 ⟨visit, by simp, hread⟩
    · rw [hnaming] at harithmetic
      cases harithmetic
  · intro before r rest hsplit hbefore huncovered
    obtain ⟨earlier, later, hvisits, hearlier⟩ := exists_visit_of_reads (hreads.trans hsplit)
    refine ⟨earlier, later, ?_⟩
    rcases hexecute : s.execute env with ⟨after, _ | fault⟩
    · -- A run that goes through would have a value for the read.
      have hleads := runAll_eq_ok_iff.1 (hrun.symm.trans hexecute)
      refine absurd (Visit.Valued.covered ?_) huncovered
      refine Leads.valued (.nil env) hleads r.visit ?_
      rw [← Stmt.visits, hvisits]
      simp
    · obtain ⟨valued, visit, behind, hfailing, hvalued, hfront, hfails⟩ :=
        exists_failing_visit (hrun.symm.trans hexecute)
      refine ⟨after, fault, hvisits, hearlier, rfl, ?_⟩
      rcases places_cases (hfailing.symm.trans hvisits) with ⟨rfl, rfl⟩ | hearly | hlate
      · -- The run fails at the read itself.
        rcases r.visit.fails_cases hfront hfails with ⟨q, hq, -, hfault⟩ | ⟨hread, -⟩
        · obtain rfl := Option.some.inj hq
          exact Or.inl ⟨hfault, hfront, hvalued⟩
        · cases hread
      · -- It fails in front of the read, where all reads are covered.
        rcases visit.fails_cases hfront hfails with
          ⟨q, hread, hq, -⟩ | ⟨-, harithmetic⟩
        · refine absurd (hbefore q ?_) hq
          rw [← hearlier]
          exact List.mem_filterMap.2 ⟨visit, hearly, hread⟩
        · exact Or.inr ⟨harithmetic, visit, hearly, hfront, hfails⟩
      · exact absurd (hvalued r.visit hlate).covered huncovered

/-- In `BEGIN a := 0; b := 1 / a; c := d END` the read of `a` is covered and that of `d` is not, and
the division in front of the latter fails.  If `d` is bound, all reads are covered. -/
theorem first_uncovered_read_behind_division :
    let a (start : Nat) : Variable := ⟨"a", ⟨start, start + 1⟩⟩
    let d : Variable := ⟨"d", ⟨27, 28⟩⟩
    let quotient : Expr := .binary .div (.number ⟨1, by decide, by decide⟩ ⟨17, 18⟩)
      (.var (a 21)) ⟨17, 22⟩
    let s : Stmt := .compound [.assignment (a 6) (.number .zero ⟨11, 12⟩) ⟨6, 12⟩,
      .assignment ⟨"b", ⟨12, 13⟩⟩ quotient ⟨12, 22⟩,
      .assignment ⟨"c", ⟨24, 25⟩⟩ (.var d) ⟨24, 28⟩] ⟨0, 32⟩
    let fault : Fault := ⟨.divisionByZero, ⟨21, 22⟩⟩
    let after := Environment.empty.assign "a" .zero
    (∃ earlier later, s.visits = earlier ++ ⟨s.assignments.take 2, .var d⟩ :: later ∧
      s.execute .empty = (after, some fault) ∧
      ∃ q ∈ earlier, Leads .empty q.front after ∧ q.node.Fails after fault) ∧
    fault.cause.faultClass ≠ .naming := by
  intro a d quotient s fault after
  have hreads : s.reads = [⟨s.assignments.take 1, a 21⟩] ++ [⟨s.assignments.take 2, d⟩] := rfl
  have hexecute : s.execute .empty = (after, some fault) := by decide +kernel
  constructor
  · obtain ⟨earlier, later, after', fault', hvisits, -, hrun, hcases⟩ :=
      (first_uncovered_read s .empty).2 _ _ [] hreads (by decide +kernel) (by decide +kernel)
    rw [hexecute] at hrun
    cases hrun
    rcases hcases with ⟨hfault, -⟩ | ⟨-, hoperation⟩
    · exact absurd hfault (by decide)
    · exact ⟨earlier, later, hvisits, hexecute, hoperation⟩
  · -- Where `d` is bound too, the run fails at the same division.
    exact (first_uncovered_read s (Environment.empty.assign "d" .zero)).1 (by decide +kernel)
      ((Environment.empty.assign "d" .zero).assign "a" .zero) fault (by decide +kernel)

end MiniPascal

/-
# What a run depends on

A run sees the bindings that are there at the start through its reads only, and a read behind an
assignment to its name sees what that assignment has bound.  So all that matters of an environment
is what it binds the names to that are read with no assignment to them in front.  From environments
that agree on these names, two runs carry out the same assignments with the same values, up to the
end or the same fault; what keeps them in step is that they agree on the targets of what has been
carried out as well.  Main statements:

* `Expr.evaluate_congr` : an expression depends on the variables that it reads;
* `InStep.assign` : two runs in step are so behind an assignment;
* `InStep.exists_leads` : two runs in step carry out the same assignments;
* `run_depends_on_exposed_reads` : two runs from environments that agree where it matters.
-/
import MiniPascal.Proofs.Evaluation.Reads

namespace MiniPascal

/-! ## Agreement -/

/-- Both environments bind the name to the same value, or neither binds it. -/
def Environment.Agree (env other : Environment) (name : String) : Prop :=
  env.get? name = other.get? name

/-- No assignment in front is for the name that is read, so the read sees what is bound at the
start. -/
def Read.Exposed (r : Read) : Prop := ∀ a ∈ r.front, a.target.name ≠ r.source.name

instance (env other : Environment) (name : String) : Decidable (env.Agree other name) :=
  inferInstanceAs (Decidable (_ = _))

instance (r : Read) : Decidable r.Exposed := inferInstanceAs (Decidable (∀ a ∈ r.front, _))

variable {env other after : Environment} {front as : List Assignment} {a : Assignment}

/-- Environments agree on a name that both have just bound to the same value, and go on agreeing on
the other names. -/
theorem Environment.Agree.assign {name target : String}
    (h : name ≠ target → env.Agree other name) (v : Value) :
    (env.assign target v).Agree (other.assign target v) name := by
  rcases eq_or_ne name target with rfl | hne
  · rw [Agree, get?_assign_self, get?_assign_self]
  · rw [Agree, get?_assign_of_ne hne, get?_assign_of_ne hne]
    exact h hne

/-- **An expression depends on the variables that it reads.** -/
theorem Expr.evaluate_congr (e : Expr) (h : ∀ v ∈ e.reads, env.Agree other v.name) :
    e.evaluate env = e.evaluate other := by
  induction e with
  | number value span => rw [evaluate_number, evaluate_number]
  | var v =>
    have hv : env.get? v.name = other.get? v.name := h v (List.mem_singleton_self v)
    rw [evaluate_var, evaluate_var, Variable.evaluate, Variable.evaluate, hv]
  | unary sign operand span ih => rw [evaluate_unary, evaluate_unary, ih h]
  | binary op left right span ihleft ihright =>
    have hleft := ihleft fun v hv => h v (List.mem_append_left _ hv)
    have hright := ihright fun v hv => h v (List.mem_append_right _ hv)
    rw [evaluate_binary, evaluate_binary, hleft, hright]

/-! ## Two runs in step -/

/-- Two runs that have carried out the assignments in `front`, with those in `as` still to come. -/
structure InStep (front as : List Assignment) (env other : Environment) : Prop where
  /-- The environments agree on the names that are still to be read from what was bound at the
  start. -/
  reads : ∀ r ∈ readsFrom front as, r.Exposed → env.Agree other r.source.name
  /-- They agree on what has been assigned to. -/
  targets : ∀ a ∈ front, env.Agree other a.target.name

namespace InStep

/-- The next right-hand side comes to the same in both runs. -/
theorem evaluate_eq (h : InStep front (a :: as) env other) :
    a.value.evaluate env = a.value.evaluate other := by
  refine a.value.evaluate_congr fun v hv => ?_
  by_cases hexposed : Read.Exposed ⟨front, v⟩
  · exact h.reads _ (List.mem_append_left _ (List.mem_map_of_mem hv)) hexposed
  · -- The name is a target in front, and nothing needs to be known of the start.
    simp only [Read.Exposed, not_forall, not_not] at hexposed
    obtain ⟨b, hb, hname⟩ := hexposed
    rw [← hname]
    exact h.targets b hb

/-- **Two runs in step are so behind an assignment**, which binds the same value in both. -/
theorem assign (h : InStep front (a :: as) env other) (v : Value) :
    InStep (front ++ [a]) as (env.assign a.target.name v) (other.assign a.target.name v) := by
  constructor
  · intro r hr hexposed
    have hread := h.reads r (List.mem_append_right _ hr) hexposed
    exact .assign (fun _ => hread) v
  · intro b hb
    refine .assign (fun hne => ?_) v
    rcases List.mem_append.1 hb with hb | hb
    · exact h.targets b hb
    · exact absurd (congrArg (·.target.name) (List.mem_singleton.1 hb)) hne

/-- **Two runs in step carry out the same assignments**, up to the end or to a right-hand side that
has no value. -/
theorem exists_leads (h : InStep front as env other) :
    ∃ executed rest after after', as = executed ++ rest ∧ Leads env executed after ∧
      Leads other executed after' ∧ InStep (front ++ executed) rest after after' ∧
      (rest = [] ∨ ∃ b back fault, rest = b :: back ∧ b.value.evaluate after = .error fault) := by
  induction as generalizing front env other with
  | nil =>
    refine ⟨[], [], env, other, rfl, .nil _, .nil _, ?_, Or.inl rfl⟩
    rwa [List.append_nil]
  | cons a as ih =>
    cases hvalue : a.value.evaluate env with
    | error fault =>
      refine ⟨[], a :: as, env, other, rfl, .nil _, .nil _, ?_, Or.inr ⟨a, as, fault, rfl, hvalue⟩⟩
      rwa [List.append_nil]
    | ok v =>
      obtain ⟨executed, rest, after, after', rfl, hleads, hleads', hstep, hrest⟩ := ih (h.assign v)
      rw [List.append_assoc] at hstep
      exact ⟨a :: executed, rest, after, after', rfl, .cons hvalue hleads,
        .cons (h.evaluate_eq.symm.trans hvalue) hleads', hstep, hrest⟩

end InStep

/-! ## Environments that agree where it matters -/

/-- A statement whose assignments have been carried out up to the end, or to one that fails. -/
theorem Stmt.execute_of_leads {s : Stmt} {executed rest : List Assignment} {fault? : Option Fault}
    (hsplit : s.assignments = executed ++ rest) (hleads : Leads env executed after)
    (hrest : runAll after rest = (after, fault?)) : s.execute env = (after, fault?) := by
  rw [execute_eq_runAll, hsplit, runAll_append_of_none (runAll_eq_ok_iff.2 hleads), hrest]

/-- **A run depends on the variables that it reads before it assigns to them.**  An expression comes
to the same in environments that agree on its variables.  From environments that agree on the names
that a statement reads with no assignment to them in front, its runs carry out the same assignments,
and end alike: behind all of them, or with the same fault of the next one.  Behind them the targets
of what was carried out have the same values in both environments, and any other name is bound as it
was at the start, in each of them. -/
theorem run_depends_on_exposed_reads :
    (∀ (e : Expr) (env other : Environment), (∀ v ∈ e.reads, env.Agree other v.name) →
      e.evaluate env = e.evaluate other) ∧
    ∀ (s : Stmt) (env other : Environment),
      (∀ r ∈ s.reads, r.Exposed → env.Agree other r.source.name) →
      ∃ executed rest fault? after after', s.assignments = executed ++ rest ∧
        Leads env executed after ∧ Leads other executed after' ∧
        s.execute env = (after, fault?) ∧ s.execute other = (after', fault?) ∧
        ((rest = [] ∧ fault? = none) ∨ ∃ a back fault, rest = a :: back ∧ fault? = some fault ∧
          a.value.evaluate after = .error fault ∧ a.value.evaluate after' = .error fault) ∧
        ∀ name,
          ((∃ a ∈ executed, a.target.name = name) →
            ∃ v, after.get? name = some v ∧ after'.get? name = some v) ∧
          ((∀ a ∈ executed, a.target.name ≠ name) →
            after.get? name = env.get? name ∧ after'.get? name = other.get? name) := by
  refine ⟨fun e env other h => e.evaluate_congr h, fun s env other h => ?_⟩
  have hstart : InStep [] s.assignments env other := ⟨h, nofun⟩
  obtain ⟨executed, rest, after, after', hsplit, hleads, hleads', hstep, hrest⟩ :=
    hstart.exists_leads
  have hnames : ∀ name,
      ((∃ a ∈ executed, a.target.name = name) →
        ∃ v, after.get? name = some v ∧ after'.get? name = some v) ∧
      ((∀ a ∈ executed, a.target.name ≠ name) →
        after.get? name = env.get? name ∧ after'.get? name = other.get? name) := by
    intro name
    refine ⟨?_, fun hname => ⟨hleads.get?_of_ne hname, hleads'.get?_of_ne hname⟩⟩
    rintro ⟨a, ha, rfl⟩
    obtain ⟨v, hv⟩ := hleads.bound_iff.2 (Or.inr ⟨a, ha, rfl⟩)
    exact ⟨v, hv, (hstep.targets a ha).symm.trans hv⟩
  rcases hrest with rfl | ⟨a, back, fault, rfl, hvalue⟩
  · exact ⟨executed, [], none, after, after', hsplit, hleads, hleads',
      Stmt.execute_of_leads hsplit hleads rfl, Stmt.execute_of_leads hsplit hleads' rfl,
      Or.inl ⟨rfl, rfl⟩, hnames⟩
  · have hvalue' : a.value.evaluate after' = .error fault := hstep.evaluate_eq.symm.trans hvalue
    refine ⟨executed, a :: back, some fault, after, after', hsplit, hleads, hleads',
      Stmt.execute_of_leads hsplit hleads ?_, Stmt.execute_of_leads hsplit hleads' ?_,
      Or.inr ⟨a, back, fault, rfl, rfl, hvalue, hvalue'⟩, hnames⟩
    · rw [runAll, hvalue]
    · rw [runAll, hvalue']

/-- In `BEGIN x := a; BEGIN y := x; z := 1 / x END END` the reads of `x` see what has been assigned,
so `a` alone matters.  Where it is zero, runs fail at the division, whatever `x` and `z` are at the
start; and `a + a` comes to the same. -/
theorem run_depends_on_exposed_reads_shadowed :
    let one : Value := ⟨1, by decide, by decide⟩
    let x (start : Nat) : Variable := ⟨"x", ⟨start, start + 1⟩⟩
    let a (start : Nat) : Expr := .var ⟨"a", ⟨start, start + 1⟩⟩
    let quotient : Expr := .binary .div (.number one ⟨33, 34⟩) (.var (x 37)) ⟨33, 38⟩
    let s : Stmt := .compound [.assignment (x 6) (a 11) ⟨6, 12⟩,
      .compound [.assignment ⟨"y", ⟨20, 21⟩⟩ (.var (x 25)) ⟨20, 26⟩,
        .assignment ⟨"z", ⟨28, 29⟩⟩ quotient ⟨28, 38⟩] ⟨14, 42⟩] ⟨0, 46⟩
    let env := Environment.ofList [("a", .zero), ("x", one)]
    let other := Environment.ofList [("a", .zero), ("z", one)]
    let fault : Fault := ⟨.divisionByZero, ⟨37, 38⟩⟩
    (∀ r ∈ s.reads, r.Exposed → env.Agree other r.source.name) ∧
    (∃ executed rest after after', s.assignments = executed ++ rest ∧
      Leads env executed after ∧ Leads other executed after' ∧
      s.execute env = (after, some fault) ∧ s.execute other = (after', some fault) ∧
      ∀ name,
        ((∃ a ∈ executed, a.target.name = name) →
          ∃ v, after.get? name = some v ∧ after'.get? name = some v) ∧
        ((∀ a ∈ executed, a.target.name ≠ name) →
          after.get? name = env.get? name ∧ after'.get? name = other.get? name)) ∧
    (Expr.binary .add (a 0) (a 4) ⟨0, 5⟩).evaluate env =
      (Expr.binary .add (a 0) (a 4) ⟨0, 5⟩).evaluate other := by
  intro one x a quotient s env other fault
  have hagree : ∀ r ∈ s.reads, r.Exposed → env.Agree other r.source.name := by decide +kernel
  refine ⟨hagree, ?_, run_depends_on_exposed_reads.1 _ env other (by decide +kernel)⟩
  obtain ⟨executed, rest, fault?, after, after', hsplit, hleads, hleads', hrun, hrun', -, hnames⟩ :=
    run_depends_on_exposed_reads.2 s env other hagree
  have hfails : (s.execute env).2 = some fault := by decide +kernel
  rw [hrun] at hfails
  obtain rfl : fault? = some fault := hfails
  exact ⟨executed, rest, after, after', hsplit, hleads, hleads', hrun, hrun', hnames⟩

end MiniPascal

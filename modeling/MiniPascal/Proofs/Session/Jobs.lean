/-
# What is shown for a job

A job is run, or its tree is shown, all or nothing: either the whole result is printed, or the one
fault that was met is reported and nothing is printed.  Faults are met while a source is read or
while its tree is run, and the class of a fault tells which of the two it was.  So a job whose tree
cannot be shown is one that cannot be run, for the same fault, and a job that fails while it is run
has a tree to be shown.  Main statements:

* `Job.shows_run`, `Job.shows_showTree` : what is shown is the result, or the report of its fault;
* `Tree.ofRunning_of_evaluate`, `ofReading_of_parse` : the faults of the two steps;
* `run_all_or_nothing` : all of this together.
-/
import MiniPascal.Proofs.Descent.Depth
import MiniPascal.Proofs.Evaluation.Failures
import MiniPascal.Proofs.Parser.Refusals
import MiniPascal.Proofs.Session.Modes
import MiniPascal.Proofs.Text.Literals

namespace MiniPascal

/-! ## Faults of reading and of running -/

namespace Fault

/-- The fault is met while the source is split into tokens, or while these are arranged. -/
def OfReading (fault : Fault) : Prop :=
  fault.cause.faultClass = .lexical ∨ fault.cause.faultClass = .syntactic

/-- The fault is met while the tree is run. -/
def OfRunning (fault : Fault) : Prop :=
  fault.cause.faultClass = .naming ∨ fault.cause.faultClass = .arithmetic

instance (fault : Fault) : Decidable fault.OfReading := inferInstanceAs (Decidable (_ ∨ _))

instance (fault : Fault) : Decidable fault.OfRunning := inferInstanceAs (Decidable (_ ∨ _))

/-- No fault is met in both steps. -/
theorem OfRunning.not_ofReading {fault : Fault} (h : fault.OfRunning) : ¬fault.OfReading := by
  unfold OfRunning at h
  unfold OfReading
  rcases h with h | h <;> simp [h]

end Fault

/-- A node that fails does so while the tree is run. -/
theorem Expr.Fails.ofRunning {env : Environment} {node : Expr} {fault : Fault}
    (h : node.Fails env fault) : fault.OfRunning := by
  cases h with
  | unbound _ => exact Or.inl rfl
  | signed _ _ => exact Or.inr rfl
  | divisor _ _ _ _ => exact Or.inr rfl
  | combined _ _ _ => exact Or.inr rfl

theorem Expr.ofRunning_of_evaluate {env : Environment} {e : Expr} {fault : Fault}
    (h : e.evaluate env = .error fault) : fault.OfRunning := by
  obtain ⟨node, -, hfails⟩ := evaluate_eq_error_iff.1 h
  exact hfails.ofRunning

/-- **The faults of running a tree**, in whatever environment, are of that step. -/
theorem Tree.ofRunning_of_evaluate {env : Environment} {tree : Tree} {fault : Fault}
    (h : (tree.evaluate env).1 = .error fault) : fault.OfRunning := by
  cases tree with
  | expr e =>
    rw [evaluate] at h
    cases he : e.evaluate env with
    | ok v =>
      rw [he] at h
      cases h
    | error other =>
      rw [he] at h
      obtain rfl := Except.error.inj h
      exact Expr.ofRunning_of_evaluate he
  | stmt s =>
    rw [evaluate] at h
    rcases hs : s.execute env with ⟨after, _ | other⟩
    · rw [hs] at h
      cases h
    · rw [hs] at h
      obtain rfl := Except.error.inj h
      rw [Stmt.execute_eq_runAll, runAll_eq_error_iff] at hs
      obtain ⟨front, a, back, -, -, ha⟩ := hs
      exact Expr.ofRunning_of_evaluate ha

/-- A run that fails behind its tree fails while the tree is run. -/
theorem Tree.ofRunning_of_run {tree : Tree} {fault : Fault} (h : tree.run = .error fault) :
    fault.OfRunning := by
  obtain ⟨env, e, -, he⟩ := run_eq_error_iff_evaluates.1 h
  exact Expr.ofRunning_of_evaluate he

/-- A halt with a fault is about the tokens, unless the fault was ahead. -/
theorem Parse.Halts.ofReading {bounds : Bounds} {taken : List Token} {c : Config} {a : Ahead}
    {outcome : Parse} {fault : Fault} (h : Halts bounds taken c a outcome) (ha : a.Lexical)
    (hfault : outcome.result = .error fault) : fault.OfReading := by
  cases h with
  | atEnd =>
    unfold Parse.atEnd at hfault
    split at hfault
    · cases hfault
    · obtain rfl := Except.error.inj hfault
      exact Or.inr (c.faultClass_complaint none)
  | refused _ =>
    obtain rfl := Except.error.inj hfault
    exact Or.inr (c.faultClass_complaint _)
  | fault _ =>
    obtain rfl := Except.error.inj hfault
    exact Or.inl (ha _ (by simp [Ahead.items]))
  | tooDeep _ _ =>
    obtain rfl := Except.error.inj hfault
    exact Or.inr rfl

/-- A call that fails does so while the source is read. -/
theorem Parser.ofReading_of_parse {parser : Parser} {mode : Mode} {fault : Fault}
    (h : parser.ahead.Lexical) (hfault : (parser.parse mode).1 = .error fault) :
    fault.OfReading := by
  obtain ⟨ts, ds, c, a, outcome, -, -, -, hitems, hhalts, hparse⟩ :=
    parser.exists_halts_of_parse mode
  rw [hparse] at hfault
  refine hhalts.ofReading (fun other hother => h other ?_) hfault
  rw [hitems]
  exact List.mem_append_right _ hother

variable {source : String} {mode : Mode} {limit : Nat} {fault : Fault}

/-- **The faults of reading a source**, under whatever limit, are of that step. -/
theorem ofReading_of_parse (h : parse source mode limit = .error fault) : fault.OfReading := by
  rw [parse] at h
  cases hparser : Parser.ofSource source limit with
  | error other =>
    rw [hparser] at h
    obtain rfl := Except.error.inj h
    rcases Ahead.items_cases (Cursor.ofSource source).items with ⟨a, ha⟩ | ⟨first, rest, hitems⟩
    · rw [Parser.ofSource_of_items ha.symm] at hparser
      cases hparser
    · rw [Parser.ofSource_of_fault hitems] at hparser
      obtain rfl := Except.error.inj hparser
      exact Or.inl (Cursor.faultClass_of_mem_items (hitems ▸ List.mem_cons_self))
  | ok parser =>
    rw [hparser] at h
    exact Parser.ofReading_of_parse (Parser.ofSource_bounds hparser).2 h

/-! ## What is shown -/

namespace Job

/-- The job is performed with the result: its text is printed and nothing is reported, or the fault
is reported and nothing is printed. -/
def Shows (job : Job) (performance : Performance) : Except Fault String → Prop
  | .ok text =>
    performance.succeeded = true ∧ performance.output.printed = text ∧
      performance.output.reports = []
  | .error fault =>
    performance.succeeded = false ∧ performance.output.printed = "" ∧
      performance.output.reports = [fault.diagnostic.report job.source job.file?]

/-- **A run shows its outcome or its fault.** -/
theorem shows_run (job : Job) :
    job.Shows job.run ((MiniPascal.run job.source job.mode job.limit).map Outcome.text) := by
  have hresult : (parseTelling job.source job.mode job.limit).1.bind Tree.run =
      MiniPascal.run job.source job.mode job.limit := by
    rw [parseTelling_fst]
    rfl
  unfold run
  dsimp only
  rw [hresult]
  cases MiniPascal.run job.source job.mode job.limit with
  | ok outcome => exact ⟨rfl, by simp [Output.tell, Output.print], rfl⟩
  | error fault => exact ⟨rfl, by simp [Output.tell, Job.report, Output.report], rfl⟩

/-- **The tree is shown, or the fault that keeps the source from having one.** -/
theorem shows_showTree (job : Job) :
    job.Shows job.showTree
      ((parse job.source job.mode job.limit).map fun tree => tree.text ++ "\n") := by
  unfold showTree
  dsimp only
  rw [parseTelling_fst]
  cases parse job.source job.mode job.limit with
  | ok tree => exact ⟨rfl, by simp [Output.tell, Output.print], rfl⟩
  | error fault => exact ⟨rfl, by simp [Output.tell, Job.report, Output.report], rfl⟩

end Job

/-! ## All or nothing -/

/-- **How far a source comes**: reading it fails, or its tree is run, and that fails or comes to an
outcome. -/
theorem parse_run_cases (source : String) (mode : Mode) (limit : Nat) :
    (∃ fault, parse source mode limit = .error fault ∧ run source mode limit = .error fault ∧
        fault.OfReading) ∨
      ∃ tree, parse source mode limit = .ok tree ∧
        ((∃ fault, run source mode limit = .error fault ∧ fault.OfRunning) ∨
          ∃ outcome, run source mode limit = .ok outcome) := by
  cases hparse : parse source mode limit with
  | error fault => exact Or.inl ⟨fault, rfl, run_of_parse hparse, ofReading_of_parse hparse⟩
  | ok tree =>
    refine Or.inr ⟨tree, rfl, ?_⟩
    rw [run_of_parse_ok hparse]
    cases hrun : tree.run with
    | error fault => exact Or.inl ⟨fault, rfl, Tree.ofRunning_of_run hrun⟩
    | ok outcome => exact Or.inr ⟨outcome, rfl⟩

namespace Job

/-- A run succeeds with its outcome or fails with its fault. -/
theorem run_cases (job : Job) :
    (∃ outcome, MiniPascal.run job.source job.mode job.limit = .ok outcome ∧
        job.run.succeeded = true ∧ job.run.output.printed = outcome.text ∧
        job.run.output.reports = []) ∨
      ∃ fault, MiniPascal.run job.source job.mode job.limit = .error fault ∧
        job.run.succeeded = false ∧ job.run.output.printed = "" ∧
        job.run.output.reports = [fault.diagnostic.report job.source job.file?] := by
  have hshows := job.shows_run
  cases hrun : MiniPascal.run job.source job.mode job.limit with
  | ok outcome =>
    rw [hrun] at hshows
    exact Or.inl ⟨outcome, rfl, hshows⟩
  | error fault =>
    rw [hrun] at hshows
    exact Or.inr ⟨fault, rfl, hshows⟩

/-- A run succeeds if it comes to an outcome. -/
theorem succeeded_run_iff {job : Job} :
    job.run.succeeded = true ↔
      ∃ outcome, MiniPascal.run job.source job.mode job.limit = .ok outcome := by
  rcases job.run_cases with ⟨outcome, hrun, hsucceeded, -⟩ | ⟨fault, hrun, hsucceeded, -⟩
  · exact iff_of_true hsucceeded ⟨outcome, hrun⟩
  · rw [hsucceeded, hrun]
    simp

/-- The tree of a source that is read is shown. -/
theorem showTree_of_parse {job : Job} {tree : Tree}
    (h : parse job.source job.mode job.limit = .ok tree) :
    job.showTree.succeeded = true ∧ job.showTree.output.printed = tree.text ++ "\n" ∧
      job.showTree.output.reports = [] := by
  have hshows := job.shows_showTree
  rwa [h] at hshows

/-- **The tree cannot be shown** exactly if the run fails for a fault of reading. -/
theorem succeeded_showTree_eq_false_iff (job : Job) :
    job.showTree.succeeded = false ↔
      ∃ fault, MiniPascal.run job.source job.mode job.limit = .error fault ∧ fault.OfReading := by
  have hshows := job.shows_showTree
  rcases parse_run_cases job.source job.mode job.limit with ⟨fault, hparse, hrun, hreading⟩ |
    ⟨tree, hparse, ⟨fault, hrun, hrunning⟩ | ⟨outcome, hrun⟩⟩
  · rw [hparse] at hshows
    exact iff_of_true hshows.1 ⟨fault, hrun, hreading⟩
  · rw [(showTree_of_parse hparse).1, hrun]
    simpa using hrunning.not_ofReading
  · rw [(showTree_of_parse hparse).1, hrun]
    simp

/-- Where the tree cannot be shown, nothing is printed, and the report is that of the run. -/
theorem reports_showTree_of_failed {job : Job} (h : job.showTree.succeeded = false) :
    job.showTree.output.printed = "" ∧ job.showTree.output.reports = job.run.output.reports := by
  have hshows := job.shows_showTree
  have hruns := job.shows_run
  rcases parse_run_cases job.source job.mode job.limit with ⟨fault, hparse, hrun, -⟩ |
    ⟨tree, hparse, -⟩
  · rw [hparse] at hshows
    rw [hrun] at hruns
    exact ⟨hshows.2.1, hshows.2.2.trans hruns.2.2.symm⟩
  · rw [(showTree_of_parse hparse).1] at h
    cases h

/-- A run that succeeds, or fails for a fault of running, has a tree. -/
theorem exists_tree_of_run {job : Job}
    (h : (∃ outcome, MiniPascal.run job.source job.mode job.limit = .ok outcome) ∨
      ∃ fault, MiniPascal.run job.source job.mode job.limit = .error fault ∧ fault.OfRunning) :
    ∃ tree, parse job.source job.mode job.limit = .ok tree := by
  rcases parse_run_cases job.source job.mode job.limit with ⟨fault, -, hrun, hreading⟩ |
    ⟨tree, hparse, -⟩
  · rw [hrun] at h
    rcases h with ⟨outcome, houtcome⟩ | ⟨other, hother, hrunning⟩
    · cases houtcome
    · obtain rfl := Except.error.inj hother
      exact absurd hreading hrunning.not_ofReading
  · exact ⟨tree, hparse⟩

end Job

/-- **Running is all or nothing, and it agrees with showing the tree on what has one.**  A run
succeeds, prints its outcome and reports nothing, or it fails, prints nothing and reports one fault.
The tree cannot be shown exactly if the run fails for a fault of reading, and then the two report
the same; if the run succeeds, or fails for a fault of running, the tree is shown and nothing is
reported.  Running a tree, in whatever environment, meets no fault of reading, and reading a source,
also by a parser that has been asked before, meets no fault of running. -/
theorem run_all_or_nothing :
    (∀ job : Job,
      ((∃ outcome, run job.source job.mode job.limit = .ok outcome ∧ job.run.succeeded = true ∧
          job.run.output.printed = outcome.text ∧ job.run.output.reports = []) ∨
        ∃ fault, run job.source job.mode job.limit = .error fault ∧ job.run.succeeded = false ∧
          job.run.output.printed = "" ∧
          job.run.output.reports = [fault.diagnostic.report job.source job.file?]) ∧
      (job.showTree.succeeded = false ↔
        ∃ fault, run job.source job.mode job.limit = .error fault ∧ fault.OfReading) ∧
      (job.showTree.succeeded = false →
        job.showTree.output.printed = "" ∧
          job.showTree.output.reports = job.run.output.reports) ∧
      ((∃ outcome, run job.source job.mode job.limit = .ok outcome) ∨
          (∃ fault, run job.source job.mode job.limit = .error fault ∧ fault.OfRunning) →
        ∃ tree, parse job.source job.mode job.limit = .ok tree ∧
          job.showTree.succeeded = true ∧ job.showTree.output.printed = tree.text ++ "\n" ∧
          job.showTree.output.reports = [])) ∧
    (∀ env tree fault, (Tree.evaluate env tree).1 = .error fault → fault.OfRunning) ∧
    (∀ source mode limit fault, parse source mode limit = .error fault → fault.OfReading) ∧
    ∀ source limit parser modes mode fault, Parser.ofSource source limit = .ok parser →
      ((parser.after modes).parse mode).1 = .error fault → fault.OfReading := by
  refine ⟨fun job => ⟨job.run_cases, job.succeeded_showTree_eq_false_iff,
    Job.reports_showTree_of_failed, ?_⟩, fun env tree fault => Tree.ofRunning_of_evaluate,
    fun source mode limit fault => ofReading_of_parse, ?_⟩
  · intro hrun
    obtain ⟨tree, hparse⟩ := Job.exists_tree_of_run hrun
    exact ⟨tree, hparse, Job.showTree_of_parse hparse⟩
  · intro source limit parser modes mode fault hparser hfault
    have hlexical := (Parser.after_unchanged (Parser.ofSource_bounds hparser).2 modes).2.2
    exact Parser.ofReading_of_parse hlexical hfault

/-- In `BEGIN x := 1; y := z END.` the second assignment fails, and nothing is printed for the first
one; the tree is shown all the same.  For `1 + ?` there is no tree, and the report of the run says
so. -/
theorem run_all_or_nothing_unbound :
    let job : Job := ⟨"BEGIN x := 1; y := z END.", none, .program, 1⟩
    let broken : Job := ⟨"1 + ?", none, .expression, 0⟩
    (job.run.succeeded = false ∧ job.run.output.printed = "" ∧
      ∃ report, job.run.output.reports = [report]) ∧
    (∃ tree, parse job.source job.mode job.limit = .ok tree ∧
      job.showTree.output.printed = tree.text ++ "\n") ∧
    broken.showTree.succeeded = false ∧
    broken.showTree.output.reports = broken.run.output.reports ∧
    (∃ fault, (Tree.evaluate .empty (.expr (.var ⟨"z", ⟨0, 1⟩⟩))).1 = .error fault ∧
      fault.OfRunning) ∧
    ∃ fault, parse "1 + ?" .expression 0 = .error fault ∧ fault.OfReading := by
  intro job broken
  have hrun : run job.source job.mode job.limit = .error ⟨.undefinedVariable "z", ⟨19, 20⟩⟩ := by
    decide +kernel
  have hbroken : run broken.source broken.mode broken.limit =
      .error ⟨.unexpectedCharacter '?', ⟨4, 5⟩⟩ := by
    decide +kernel
  have hparse : parse "1 + ?" .expression 0 = .error ⟨.unexpectedCharacter '?', ⟨4, 5⟩⟩ := by
    decide +kernel
  have hread : (Tree.evaluate .empty (.expr (.var ⟨"z", ⟨0, 1⟩⟩))).1 =
      .error ⟨.undefinedVariable "z", ⟨0, 1⟩⟩ := by
    decide +kernel
  obtain ⟨hjobs, hrunning, hreading, -⟩ := run_all_or_nothing
  obtain ⟨hcases, -, -, htree⟩ := hjobs job
  obtain ⟨-, hfailed, hreports, -⟩ := hjobs broken
  have hshown : broken.showTree.succeeded = false := hfailed.2 ⟨_, hbroken, by decide⟩
  refine ⟨?_, ?_, hshown, (hreports hshown).2, ⟨_, hread, hrunning _ _ _ hread⟩,
    ⟨_, hparse, hreading _ _ _ _ hparse⟩⟩
  · rcases hcases with ⟨outcome, houtcome, -⟩ | ⟨fault, -, hsucceeded, hprinted, hreport⟩
    · rw [hrun] at houtcome
      cases houtcome
    · exact ⟨hsucceeded, hprinted, _, hreport⟩
  · obtain ⟨tree, htree, -, hprinted, -⟩ := htree (Or.inr ⟨_, hrun, by decide⟩)
    exact ⟨tree, htree, hprinted⟩

end MiniPascal

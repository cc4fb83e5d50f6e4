/-
# The listing of an environment

Behind a program each name that is bound is listed on a line of its own, with its value behind an
equals sign.  A name is a word, so the blank behind it shows where it ends, and neither a name nor a
value has a line feed.  So the listing is read back line by line, and it tells the environment, of
which the bindings are those of the last assignments to each name.  Main statements:

* `writtenLines_join` : the lines of texts that are lines, each with its line feed;
* `Value.ofText?_text`, `Binding.ofLine?_line`, `Environment.ofText?_text` : reading back;
* `exists_leads_of_run` : what a program comes to;
* `listing_of_program` : all of this together.
-/
import MiniPascal.Proofs.Evaluation.Environments
import MiniPascal.Proofs.Session.Jobs
import MiniPascal.Proofs.Text.Decoding
import MiniPascal.Proofs.Text.Lines

namespace MiniPascal

/-! ## Lines with their line feeds -/

theorem oneLine_of_plain {name : String} (h : Plain name) : OneLine name := by
  intro hfeed
  have hpart := h _ hfeed
  rw [isWordPart_of_isBlank (by decide)] at hpart
  cases hpart

/-- A line feed at the start ends an empty line. -/
theorem writtenLines_lineFeed (rest : String) :
    writtenLines ("\n" ++ rest) = "" :: writtenLines rest := by
  rw [writtenLines, String.toList_append]
  rfl

/-- **The lines of texts that are lines**, each with its line feed; behind the last one there is
nothing. -/
theorem writtenLines_join {lines : List String} (h : ∀ line ∈ lines, OneLine line) :
    writtenLines (String.join (lines.map (· ++ "\n"))) = lines ++ [""] := by
  induction lines with
  | nil => rfl
  | cons line rest ih =>
    obtain ⟨hline, hrest⟩ := List.forall_mem_cons.1 h
    rw [List.map_cons, String.join_cons, String.append_assoc, writtenLines_append hline,
      writtenLines_lineFeed, ih hrest, List.headD_cons, List.tail_cons, String.append_empty,
      List.cons_append]

/-! ## Reading back -/

/-- The value that is written in digits, behind a minus sign or not. -/
def Value.ofText? (text : List Char) : Option Value :=
  if text.head? = some '-' then ofInt? (-decimalValue text.tail) else ofInt? (decimalValue text)

/-- **The text of a value is read back as the value.** -/
theorem Value.ofText?_text (v : Value) : ofText? v.text.toList = some v := by
  by_cases hv : 0 ≤ v.toInt
  · have hhead : (Nat.toDigits 10 v.toInt.natAbs).head? ≠ some '-' := by
      intro hminus
      obtain ⟨digits, hdigits⟩ := List.head?_eq_some_iff.1 hminus
      exact toDigits_ne_cons_minus _ digits hdigits
    rw [toList_text_of_nonneg hv, ofText?, if_neg hhead, decimalValue_toDigits, ofInt?_eq_some_iff]
    omega
  · rw [toList_text_of_neg (Int.not_le.1 hv), ofText?, List.head?_cons, if_pos rfl, List.tail_cons,
      decimalValue_toDigits, ofInt?_eq_some_iff]
    omega

namespace Binding

/-- The line on which the binding is listed. -/
def line (b : Binding) : String := b.1 ++ " = " ++ b.2.text

/-- The binding that is listed on the line: a name, a separator, and a value. -/
def ofLine? (line : String) : Option Binding :=
  let name := line.toList.takeWhile isWordPart
  let rest := line.toList.dropWhile isWordPart
  if rest.take 3 = " = ".toList then
    (Value.ofText? (rest.drop 3)).map fun v => (String.ofList name, v)
  else none

theorem oneLine_line {b : Binding} (h : Plain b.1) : OneLine b.line := by
  rw [line, oneLine_append, oneLine_append]
  exact ⟨⟨oneLine_of_plain h, by decide⟩, b.2.oneLine_text⟩

/-- **A binding is read back from its line**, if its name is plain. -/
theorem ofLine?_line {b : Binding} (h : Plain b.1) : ofLine? b.line = some b := by
  have hstops : Stops isWordPart (" = ".toList ++ b.2.text.toList) := by
    intro c hc
    rw [← Option.some.inj hc]
    decide
  have hline : b.line.toList = b.1.toList ++ (" = ".toList ++ b.2.text.toList) := by
    rw [line, String.toList_append, String.toList_append, List.append_assoc]
  have htake : (" = ".toList ++ b.2.text.toList).take 3 = " = ".toList := List.take_left' rfl
  have hdrop : (" = ".toList ++ b.2.text.toList).drop 3 = b.2.text.toList := List.drop_left' rfl
  rw [ofLine?, hline, takeWhile_append_of_stops h hstops, dropWhile_append_of_stops h hstops,
    if_pos htake, hdrop, Value.ofText?_text, Option.map_some, String.ofList_toList]

/-- Bindings are read back from their lines. -/
theorem mapM_ofLine? {bindings : List Binding} (h : ∀ b ∈ bindings, Plain b.1) :
    (bindings.map line).mapM ofLine? = some bindings := by
  induction bindings with
  | nil => rfl
  | cons b rest ih =>
    obtain ⟨hb, hrest⟩ := List.forall_mem_cons.1 h
    rw [List.map_cons, List.mapM_cons, ofLine?_line hb, ih hrest]
    rfl

end Binding

namespace Environment

variable {env : Environment}

/-- The environment that is listed in the text, one binding on each line. -/
def ofText? (text : String) : Option Environment :=
  ((writtenLines text).dropLast.mapM Binding.ofLine?).map ofList

/-- **The lines of a listing** are those of the bindings. -/
theorem writtenLines_text (h : ∀ b ∈ env.bindings, Plain b.1) :
    writtenLines (Outcome.environment env).text = env.bindings.map Binding.line ++ [""] := by
  have htext : (Outcome.environment env).text =
      String.join ((env.bindings.map Binding.line).map (· ++ "\n")) := by
    rw [List.map_map]
    rfl
  rw [htext, writtenLines_join]
  intro line hline
  obtain ⟨b, hb, rfl⟩ := List.mem_map.1 hline
  exact Binding.oneLine_line (h b hb)

/-- **An environment is read back from its listing**, if its names are plain. -/
theorem ofText?_text (h : ∀ b ∈ env.bindings, Plain b.1) :
    ofText? (Outcome.environment env).text = some env := by
  rw [ofText?, writtenLines_text h, List.dropLast_concat, Binding.mapM_ofLine? h, Option.map_some,
    ofList_bindings]

end Environment

/-! ## Programs -/

/-- Where a statement that is run to its end leads, starting from nothing. -/
theorem Tree.leads_of_run_stmt {s : Stmt} {outcome : Outcome} (h : (stmt s).run = .ok outcome) :
    ∃ env, outcome = .environment env ∧ Leads .empty s.assignments env := by
  rw [run, evaluate] at h
  rcases hexecute : s.execute .empty with ⟨env, _ | fault⟩
  · rw [hexecute] at h
    rw [s.execute_eq_runAll, runAll_eq_ok_iff] at hexecute
    exact ⟨env, (Except.ok.inj h).symm, hexecute⟩
  · rw [hexecute] at h
    cases h

/-- **What a program comes to** is where its assignments lead, starting from nothing. -/
theorem exists_leads_of_run {source : String} {limit : Nat} {outcome : Outcome}
    (h : run source .program limit = .ok outcome) :
    ∃ s env, parse source .program limit = .ok (.stmt s) ∧ outcome = .environment env ∧
      Leads .empty s.assignments env := by
  rcases parse_run_cases source .program limit with ⟨fault, -, hrun, -⟩ | ⟨tree, hparse, -⟩
  · rw [h] at hrun
    cases hrun
  · obtain ⟨d, -, -, rfl⟩ := parse_eq_ok_iff.1 hparse
    cases d with
    | program block dot =>
      rw [run_of_parse_ok hparse] at h
      obtain ⟨env, houtcome, hleads⟩ := Tree.leads_of_run_stmt h
      exact ⟨block.tree, env, hparse, houtcome, hleads⟩

/-- The names that a program binds are plain. -/
theorem plain_of_leads {source : String} {mode : Mode} {limit : Nat} {s : Stmt} {env : Environment}
    (hparse : parse source mode limit = .ok (.stmt s)) (h : Leads .empty s.assignments env) :
    ∀ b ∈ env.bindings, Plain b.1 := by
  intro b hb
  obtain ⟨a, ha, hname⟩ := h.mem_names_iff.1 (List.mem_map_of_mem hb)
  apply plain_of_isWord
  apply isWord_of_mem_names hparse
  exact List.mem_flatMap.2 ⟨a, ha, hname ▸ List.mem_cons_self⟩

/-- The names that are bound behind a program are plain. -/
theorem plain_of_run {source : String} {limit : Nat} {env : Environment}
    (h : run source .program limit = .ok (.environment env)) : ∀ b ∈ env.bindings, Plain b.1 := by
  obtain ⟨s, env', hparse, henv, hleads⟩ := exists_leads_of_run h
  obtain rfl := Outcome.environment.inj henv
  exact plain_of_leads hparse hleads

/-- **What is printed for a program is the listing of its environment.**  A program that succeeds
prints a line for each name that is the target of an assignment, with the value that the last
assignment to the name gives it; the lines stand in strictly increasing order of the names, by code
points, and there are no others.  The environment is read back from what is printed.  So two
programs that succeed print the same exactly if they leave the same environment behind, in which
all names have the same value. -/
theorem listing_of_program {job : Job} (hmode : job.mode = .program)
    (h : job.run.succeeded = true) :
    ∃ s env, parse job.source job.mode job.limit = .ok (.stmt s) ∧
      run job.source job.mode job.limit = .ok (.environment env) ∧
      writtenLines job.run.output.printed = env.bindings.map Binding.line ++ [""] ∧
      (env.bindings.Pairwise fun a b =>
        a.1.toList.map Char.toNat < b.1.toList.map Char.toNat) ∧
      (∀ name, name ∈ env.bindings.map Prod.fst ↔ ∃ a ∈ s.assignments, a.target.name = name) ∧
      (∀ b, b ∈ env.bindings ↔ b.MadeLast s.assignments) ∧
      Environment.ofText? job.run.output.printed = some env ∧
      ∀ (other : Job) (env' : Environment), other.mode = .program →
        run other.source other.mode other.limit = .ok (.environment env') →
        (job.run.output.printed = other.run.output.printed ↔ env = env') ∧
          (env = env' ↔ ∀ name, env.get? name = env'.get? name) := by
  obtain ⟨outcome, hrun⟩ := Job.succeeded_run_iff.1 h
  have hprinted := Job.printed_run hrun
  rw [hmode] at hrun ⊢
  obtain ⟨s, env, hparse, rfl, hleads⟩ := exists_leads_of_run hrun
  have hplain := plain_of_leads hparse hleads
  have hback : Environment.ofText? job.run.output.printed = some env := by
    rw [hprinted, Environment.ofText?_text hplain]
  refine ⟨s, env, hparse, hrun, ?_, env.pairwise_codePoints, fun name => hleads.mem_names_iff,
    fun b => hleads.mem_bindings_iff, hback, ?_⟩
  · rw [hprinted, Environment.writtenLines_text hplain]
  · intro other env' hmode' hrun'
    have hprinted' := Job.printed_run hrun'
    rw [hmode'] at hrun'
    refine ⟨?_, Environment.eq_iff_get?_eq⟩
    constructor
    · intro hsame
      rw [hsame, hprinted', Environment.ofText?_text (plain_of_run hrun')] at hback
      exact (Option.some.inj hback).symm
    · rintro rfl
      rw [hprinted, hprinted']

/-- Two programs leave `a = 2` and `b = 1` behind, one of them from another order, with a block and
with two assignments to `b`. -/
theorem listing_of_program_reordered :
    let job : Job := ⟨"BEGIN b := 2; BEGIN a := b; b := 1 END END.", none, .program, 2⟩
    let other : Job := ⟨"BEGIN a := 1 + 1; b := a / 2 END.", none, .program, 1⟩
    job.run.succeeded = true ∧
      writtenLines job.run.output.printed = ["a = 2", "b = 1", ""] ∧
      job.run.output.printed = other.run.output.printed := by
  intro job other
  let env : Environment := (Environment.empty.assign "a" ⟨2, by decide, by decide⟩).assign "b"
    ⟨1, by decide, by decide⟩
  have hrun : run job.source job.mode job.limit = .ok (.environment env) := by decide +kernel
  have hother : run other.source other.mode other.limit = .ok (.environment env) := by
    decide +kernel
  have hsucceeded : job.run.succeeded = true := Job.succeeded_run_iff.2 ⟨_, hrun⟩
  obtain ⟨s, env', -, hrun', hlines, -, -, -, -, hsame⟩ := listing_of_program rfl hsucceeded
  rw [hrun] at hrun'
  obtain rfl := Outcome.environment.inj (Except.ok.inj hrun')
  refine ⟨hsucceeded, hlines.trans (by decide +kernel), ?_⟩
  exact (hsame other env rfl hother).1.2 rfl

end MiniPascal

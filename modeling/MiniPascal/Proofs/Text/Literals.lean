/-
# Literals and printed values

A row of digits is a literal of the value that it stands for, unless this is beyond the greatest
one.  What is printed for a value is such a row, behind a minus sign if the value is negative; so
it is an expression again, and it has the value for which it was printed.  The least value is the
exception: the digits behind its minus sign stand for a number that is no value.  Main statements:

* `Cursor.items_digits`, `Cursor.items_digits_of_large` : what a row of digits is read as;
* `Job.printed_run` : what is printed for a run;
* `Value.run_text_eq_ok_iff` : the text of a value has this value, unless it is the least one;
* `printed_value_reads_back` : all of this together.
-/
import MiniPascal.Proofs.Evaluation.Exact
import MiniPascal.Proofs.Parser.Nesting
import MiniPascal.Proofs.Parser.Operands
import MiniPascal.Proofs.Places.Assigning
import MiniPascal.Proofs.Session.Transcript
import MiniPascal.Proofs.Text.Decimals

namespace MiniPascal

open Grammar

/-! ## Rows of digits -/

section

variable {digits : List Char}

/-- **A row of digits is a literal of the value that it stands for.** -/
theorem Cursor.items_digits (h : IsDigits digits) {v : Value} (hv : v.toInt = decimalValue digits)
    (offset : Nat) :
    items ⟨offset, digits⟩ =
      [.token ⟨.integer v, String.ofList digits, ⟨offset, offset + digits.length⟩⟩] := by
  rw [← ofDigitChars_eq_decimalValue] at hv
  have hwritten : Kind.Written digits [] (.integer v) :=
    ⟨h, cut_nil.stops_digit, cut_nil.not_fractionAhead, hv⟩
  exact items_alone (.token hwritten) offset

/-- **A row of digits beyond the greatest value is a fault.** -/
theorem Cursor.items_digits_of_large (h : IsDigits digits)
    (hlarge : 9223372036854775808 ≤ decimalValue digits) (offset : Nat) :
    items ⟨offset, digits⟩ =
      [.fault ⟨.integerOutOfRange (String.ofList digits), ⟨offset, offset + digits.length⟩⟩] := by
  rw [← ofDigitChars_eq_decimalValue] at hlarge
  have hspoils : (Cause.integerOutOfRange (String.ofList digits)).Spoils digits [] :=
    ⟨h, cut_nil.stops_digit, cut_nil.not_fractionAhead, hlarge, rfl⟩
  exact items_alone (.fault hspoils) offset

end

section

variable {source : String} {mode : Mode} {limit larger : Nat} {outcome : Outcome}

/-! ## What is printed -/

/-- Telling of what is read changes nothing about it. -/
theorem parseTelling_fst (source : String) (mode : Mode) (limit : Nat) :
    (parseTelling source mode limit).1 = parse source mode limit := by
  unfold parseTelling parse
  cases Parser.ofSource source limit with
  | error fault => rfl
  | ok parser =>
    show _ = (parser.parse mode).1
    rw [← parser.parseTelling_fst]
    dsimp only
    cases (parser.parseTelling mode).1.1 <;> rfl

/-- **What is printed for a run** is its outcome. -/
theorem Job.printed_run {job : Job}
    (h : MiniPascal.run job.source job.mode job.limit = .ok outcome) :
    job.run.output.printed = outcome.text := by
  have hbind : (parseTelling job.source job.mode job.limit).1.bind Tree.run = .ok outcome := by
    rw [parseTelling_fst]
    exact h
  unfold run
  dsimp only
  rw [hbind]
  simp only [Output.printed_append]
  exact String.empty_append

/-! ## Larger limits -/

/-- What a source comes to within a limit it comes to within a larger one. -/
theorem run_ok_mono (h : run source mode limit = .ok outcome) (hlarger : limit ≤ larger) :
    run source mode larger = .ok outcome := by
  cases hparse : parse source mode limit with
  | error fault =>
    rw [run, hparse] at h
    cases h
  | ok tree =>
    rw [run_of_parse_ok hparse] at h
    rw [run_of_parse_ok (parse_ok_mono hparse hlarger), h]

end

/-! ## Texts of values -/

section

variable {source : String} {v : Value}

/-- The only item of a source of digits. -/
theorem items_of_isDigits (h : IsDigits source.toList) (hv : v.toInt = decimalValue source.toList) :
    (Cursor.ofSource source).items = [.token ⟨.integer v, source, ⟨0, source.length⟩⟩] := by
  have hitems := Cursor.items_digits h hv 0
  rwa [String.ofList_toList, String.length_toList, Nat.zero_add] at hitems

/-- A source of digits is parsed to the value that they stand for. -/
theorem parse_of_isDigits (h : IsDigits source.toList) (hv : v.toInt = decimalValue source.toList)
    (limit : Nat) :
    parse source .expression limit = .ok (.expr (.number v ⟨0, source.length⟩)) :=
  parse_of_factor (f := .integer v ⟨⟨.integer v, source, ⟨0, source.length⟩⟩, rfl⟩)
    (items_of_isDigits h hv) (by simp [Factor.depths])

namespace Value

/-- The least value. -/
def least : Value := ⟨-9223372036854775808, by decide, by decide⟩

theorem parse_text_of_nonneg (h : 0 ≤ v.toInt) (limit : Nat) :
    parse v.text .expression limit = .ok (.expr (.number v ⟨0, v.text.length⟩)) := by
  have htext := toList_text_of_nonneg h
  refine parse_of_isDigits ?_ ?_ limit
  · rw [htext]
    exact isDigits_toDigits _
  · rw [htext, decimalValue_toDigits, Int.natAbs_of_nonneg h]

/-- The items of the text of a negative value. -/
theorem items_text_of_neg (h : v.toInt < 0) :
    (Cursor.ofSource v.text).items =
      .token ⟨.symbol .minus, "-", ⟨0, 1⟩⟩ :: Cursor.items ⟨1, Nat.toDigits 10 v.toInt.natAbs⟩ := by
  rw [Cursor.ofSource, toList_text_of_neg h]
  exact Cursor.items_sign .minus 0 _

/-- The text of a negative value is parsed to its sign and its size, with room for the sign. -/
theorem parse_text_of_neg {w : Value} (h : v.toInt < 0) (hw : w.toInt = -v.toInt) {limit : Nat}
    (hlimit : 1 ≤ limit) :
    ∃ digits node, parse v.text .expression limit =
      .ok (.expr (.unary .minus (.number w digits) node)) := by
  let row := Nat.toDigits 10 v.toInt.natAbs
  have hrow : w.toInt = decimalValue row := by
    rw [decimalValue_toDigits, hw]
    omega
  have hitems := items_text_of_neg h
  rw [Cursor.items_digits (isDigits_toDigits _) hrow] at hitems
  let mark : Leaf Sign.minus.kind := ⟨⟨.symbol .minus, "-", ⟨0, 1⟩⟩, rfl⟩
  let literal : Leaf (.integer w) := ⟨⟨.integer w, String.ofList row, ⟨1, 1 + row.length⟩⟩, rfl⟩
  have hroom : ∀ n ∈ (Factor.signed .minus mark (.integer w literal)).depths 0, n ≤ limit := by
    simpa [Factor.depths] using hlimit
  exact ⟨_, _, parse_of_factor hitems hroom⟩

theorem run_text_of_neg (h : v.toInt < 0) (hv : v ≠ least) {limit : Nat} (hlimit : 1 ≤ limit) :
    run v.text .expression limit = .ok (.value v) := by
  have hne : v.toInt ≠ -9223372036854775808 := fun hleast => hv (Value.ext hleast)
  have hlower := v.lower
  obtain ⟨w, hw⟩ : ∃ w : Value, w.toInt = -v.toInt :=
    ⟨⟨-v.toInt, by omega, by omega⟩, rfl⟩
  obtain ⟨digits, node, hparse⟩ := parse_text_of_neg h hw hlimit
  have happly : Sign.minus.apply node w = .ok v := by
    rw [Sign.apply_eq_ok_iff, Sign.exact, hw, Int.neg_neg]
  rw [run_of_parse_ok hparse, Tree.run_expr, Expr.evaluate_unary, Expr.evaluate_number]
  exact congrArg (Except.map Outcome.value) happly

/-- The digits of the least value are beyond the greatest one, and it is at them that its text
fails, before the limit plays a part. -/
theorem run_text_least (limit : Nat) :
    run least.text .expression limit =
      .error ⟨.integerOutOfRange "9223372036854775808", ⟨1, 20⟩⟩ := by
  have hparse : parse least.text .expression 0 =
      .error ⟨.integerOutOfRange "9223372036854775808", ⟨1, 20⟩⟩ := by
    decide +kernel
  rw [run, parse_error_mono hparse (by decide) (Nat.zero_le limit)]
  rfl

/-- **The text of a value has this value**, unless it is the least one. -/
theorem run_text_eq_ok_iff {limit : Nat} (hlimit : 1 ≤ limit) :
    run v.text .expression limit = .ok (.value v) ↔ v ≠ least := by
  constructor
  · rintro h rfl
    rw [run_text_least] at h
    cases h
  · intro hv
    by_cases hsign : 0 ≤ v.toInt
    · rw [run_of_parse_ok (parse_text_of_nonneg hsign limit), Tree.run_expr, Expr.evaluate_number]
      rfl
    · exact run_text_of_neg (Int.not_le.1 hsign) hv hlimit

end Value

end

/-! ## The least value -/

/-- An expression comes to the least value, within any limit. -/
theorem run_least_expression (limit : Nat) :
    run "0-9223372036854775807-1" .expression limit = .ok (.value .least) := by
  have hrun : run "0-9223372036854775807-1" .expression 0 = .ok (.value .least) := by
    decide +kernel
  exact run_ok_mono hrun (Nat.zero_le limit)

/-- A program comes to the least value, with room for its block. -/
theorem run_least_program {limit : Nat} (hlimit : 1 ≤ limit) :
    run "BEGIN x := 0-9223372036854775807-1 END." .program limit =
      .ok (.environment (.ofList [("x", .least)])) := by
  have hrun : run "BEGIN x := 0-9223372036854775807-1 END." .program 1 =
      .ok (.environment (.ofList [("x", .least)])) := by
    decide +kernel
  exact run_ok_mono hrun hlimit

/-! ## Literals and printed values -/

/-- **Literals and printed values.**  A row of digits is read as the one literal of the value that
it stands for and then the end, or as a fault if it stands for more than the greatest value.  What
is printed for an expression is the text of its value in a line.  With room for a sign the text of a
value has that value again, unless this is the least one.  Expressions and programs come to the
least value as well, but its text fails at its digits. -/
theorem printed_value_reads_back :
    (∀ digits : String, IsDigits digits.toList →
      (decimalValue digits.toList ≤ 2 ^ 63 - 1 →
        ∃ (v : Value) (t : Token), v.toInt = decimalValue digits.toList ∧
          t = ⟨.integer v, digits, ⟨0, digits.length⟩⟩ ∧ tokens digits = .ok [t] ∧
          Reader.readings 2 (.ofSource digits) = [some (.token t), none]) ∧
      (2 ^ 63 - 1 < decimalValue digits.toList →
        ∃ fault, tokens digits = .error fault ∧ fault.diagnostic = ⟨.lexical, ⟨0, digits.length⟩,
          "Integer literal out of range: " ++ digits, none⟩)) ∧
    (∀ (job : Job) (v : Value), run job.source job.mode job.limit = .ok (.value v) →
      job.run.output.printed = v.text ++ "\n") ∧
    (∀ (v : Value) (limit : Nat), 1 ≤ limit →
      (run v.text .expression limit = .ok (.value v) ↔ v ≠ .least)) ∧
    (∀ limit, ∃ fault, run Value.least.text .expression limit = .error fault ∧
      fault.diagnostic = ⟨.lexical, ⟨1, Value.least.text.length⟩,
        "Integer literal out of range: 9223372036854775808", none⟩) ∧
    (∃ source, ∀ limit, run source .expression limit = .ok (.value .least)) ∧
    ∃ source name, ∀ limit, 1 ≤ limit →
      run source .program limit = .ok (.environment (.ofList [(name, .least)])) := by
  refine ⟨fun digits hdigits => ⟨fun hle => ?_, fun hlarge => ?_⟩, ?_, ?_, ?_, ?_, ?_⟩
  · have hvalue : ∃ v : Value, v.toInt = decimalValue digits.toList :=
      ⟨⟨decimalValue digits.toList, by omega, by omega⟩, rfl⟩
    obtain ⟨v, hv⟩ := hvalue
    have hitems := items_of_isDigits hdigits hv
    refine ⟨v, _, hv, rfl, tokens_eq_ok_iff.2 hitems, ?_⟩
    rw [Reader.readings_eq, Reader.ofSource, hitems]
    rfl
  · have hitems := Cursor.items_digits_of_large hdigits (by omega) 0
    rw [String.ofList_toList, String.length_toList, Nat.zero_add] at hitems
    exact ⟨_, tokens_eq_error_iff.2 ⟨[], [], hitems⟩, rfl⟩
  · exact fun job v h => Job.printed_run h
  · exact fun v limit hlimit => Value.run_text_eq_ok_iff hlimit
  · exact fun limit => ⟨_, Value.run_text_least limit, by decide⟩
  · exact ⟨_, run_least_expression⟩
  · exact ⟨_, _, fun limit hlimit => run_least_program hlimit⟩

/-- A literal with leading zeros, one beyond the greatest value, and a negative value. -/
theorem printed_value_reads_back_instances :
    (∃ v t, v.toInt = 7 ∧ tokens "007" = .ok [t] ∧ t.kind = .integer v) ∧
    (∃ fault, tokens "9223372036854775808" = .error fault ∧
      fault.diagnostic.span = ⟨0, 19⟩) ∧
    ∃ v : Value, v.toInt = -7 ∧
      (⟨"3-10", none, .expression, 0⟩ : Job).run.output.printed = "-7\n" ∧
      run "-7" .expression 1 = .ok (.value v) := by
  obtain ⟨hdigits, hprinted, hback, -⟩ := printed_value_reads_back
  have hseven : IsDigits "007".toList := ⟨by decide, by simp⟩
  have hlarge : IsDigits "9223372036854775808".toList := ⟨by decide, by simp⟩
  obtain ⟨v, t, hv, ht, htokens, -⟩ := (hdigits "007" hseven).1 (by decide)
  obtain ⟨fault, hfault, hdiagnostic⟩ := (hdigits _ hlarge).2 (by decide)
  have hrun : run "3-10" .expression 0 = .ok (.value ⟨-7, by decide, by decide⟩) := by
    decide +kernel
  have htext : (⟨-7, by decide, by decide⟩ : Value).text = "-7" := by decide
  refine ⟨⟨v, t, hv, htokens, by rw [ht]⟩, ⟨fault, hfault, by rw [hdiagnostic]; rfl⟩,
    ⟨-7, by decide, by decide⟩, rfl, ?_, ?_⟩
  · rw [hprinted ⟨"3-10", none, .expression, 0⟩ _ hrun, htext]
    rfl
  · rw [← htext]
    exact (hback _ 1 (Nat.le_refl 1)).2 (by decide)

end MiniPascal

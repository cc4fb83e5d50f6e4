/-
# The culprit of a fault

The span of a fault says where in the source the culprit is to be found: the characters that make up
no token, the token that the grammar refuses or that opens a group too many, the name without a
value, the divisor, or the operation that overflows.  A message that quotes the culprit quotes what
stands there.  Only where the end of the source is what the grammar refuses there is no character to
point at, and the span lies behind the last one.  Main statements:

* `standsIn_of_mem_items` : every item of a source stands in it;
* `Tiling.unbroken` : tokens and gaps break no run of digits;
* `Refusal.pointsAtCulprit`, `Tree.FailsAt.pointsAtCulprit` : the faults of parsing and of running;
* `fault_points_at_culprit` : all faults of a source.
-/
import MiniPascal.Diagnostic
import MiniPascal.Proofs.Evaluation.Failures
import MiniPascal.Proofs.Parser.Refusals
import MiniPascal.Proofs.Places.Spans

namespace MiniPascal

variable {text : List Char} {source : String}

/-! ## Items -/

/-- The item stands in the text as the lexical grammar says. -/
def Item.StandsIn (text : List Char) : Item → Prop
  | token t => t.StandsIn text ∧ t.span.stop ≤ text.length
  | fault f => f.StandsIn text

theorem Cursor.standsIn_of_mem {start : Nat} {item : Item} (hstart : start ≤ text.length)
    (h : item ∈ items (.inText text start)) : item.StandsIn text := by
  -- Each item leaves less of the text.
  induction hn : text.length - start using Nat.strongRecOn generalizing start with
  | ind n ih =>
    obtain ⟨stop, hle, hstop, htrivia, rfl | ⟨t, rfl, htext, hstands⟩ | ⟨fault, rfl, hstands⟩⟩ :=
      exists_gap hstart
    · rw [items_at_gap hle htrivia hstop, inText, List.drop_length, items_nil] at h
      cases h
    · have hnonempty := hstands.nonempty
      rw [items_at_gap hle htrivia hstop, items_at_token hstands htext] at h
      rcases List.mem_cons.1 h with rfl | h
      · exact ⟨hstands, htext⟩
      · exact ih _ (by omega) htext h rfl
    · have hnonempty := hstands.nonempty
      have htext := hstands.stop_le
      rw [items_at_gap hle htrivia hstop, items_at_fault hstands] at h
      rcases List.mem_cons.1 h with rfl | h
      · exact hstands
      · exact ih _ (by omega) htext h rfl

/-- **Every item of a source stands in it.** -/
theorem standsIn_of_mem_items {item : Item} (h : item ∈ (Cursor.ofSource source).items) :
    item.StandsIn source.toList :=
  Cursor.standsIn_of_mem (Nat.zero_le _) h

/-! ## Whole runs of digits -/

/-- No run of digits goes on over the offset of the text. -/
def Unbroken (text : List Char) (offset : Nat) : Prop :=
  (∀ c ∈ (text.take offset).getLast?, c.isDigit = false) ∨ Stops Char.isDigit (text.drop offset)

/-- A gap does not end with a digit. -/
theorem Trivia.isDigit_getLast? {gap : List Char} (h : Trivia gap) :
    ∀ c ∈ gap.getLast?, c.isDigit = false := by
  induction h with
  | nil => simp
  | @blank c rest hblank _ ih =>
    intro d hd
    rw [List.getLast?_cons] at hd
    cases hlast : rest.getLast? with
    | none =>
      rw [hlast] at hd
      obtain rfl : c = d := by simpa using hd
      exact isDigit_of_isBlank hblank
    | some e =>
      rw [hlast] at hd
      obtain rfl : e = d := by simpa using hd
      exact ih e hlast
  | @comment body rest hbody _ ih =>
    intro d hd
    rw [← List.cons_append, List.getLast?_append, List.getLast?_cons] at hd
    cases hlast : rest.getLast? with
    | none =>
      rw [hlast] at hd
      obtain rfl : '}' = d := by simpa using hd
      rfl
    | some e =>
      rw [hlast] at hd
      obtain rfl : e = d := by simpa using hd
      exact ih e hlast

/-- The text in front of an offset ends as the stretch up to there does. -/
theorem getLast?_take {start stop : Nat} (h : start < stop) (hstop : stop ≤ text.length) :
    (text.take stop).getLast? = (Span.slice ⟨start, stop⟩ text).getLast? := by
  have hslice : text.take stop = text.take start ++ Span.slice ⟨start, stop⟩ text := by
    rw [Span.slice, List.extract_eq_take_drop]
    obtain ⟨n, rfl⟩ := Nat.exists_eq_add_of_le (Nat.le_of_lt h)
    rw [Nat.add_sub_cancel_left, List.take_add]
  have hne : Span.slice ⟨start, stop⟩ text ≠ [] := by
    intro hempty
    have hlength : (Span.slice ⟨start, stop⟩ text).length = stop - start := Span.length_slice hstop
    rw [hempty, List.length_nil] at hlength
    omega
  rw [hslice, List.getLast?_append, List.getLast?_eq_some_getLast hne, Option.some_or]

theorem Unbroken.gap {start stop : Nat} (h : Unbroken text start) (hle : start ≤ stop)
    (hstop : stop ≤ text.length) (htrivia : Trivia (Span.slice ⟨start, stop⟩ text)) :
    Unbroken text stop := by
  rcases Nat.lt_or_eq_of_le hle with hlt | rfl
  · left
    rw [getLast?_take hlt hstop]
    exact htrivia.isDigit_getLast?
  · exact h

/-- A token does not break a run of digits at its end. -/
theorem Token.StandsIn.unbroken {t : Token} (h : t.StandsIn text)
    (hstop : t.span.stop ≤ text.length) : Unbroken text t.span.stop := by
  have hword : Stops isWordPart (text.drop t.span.stop) →
      Stops Char.isDigit (text.drop t.span.stop) := by
    intro hstops c hc
    rw [← Bool.not_eq_true]
    intro hdigit
    have hpart := hstops c hc
    rw [isWordPart_of_isDigit hdigit] at hpart
    cases hpart
  have hwritten := h.written
  cases hkind : t.kind with
  | symbol s =>
    rw [hkind] at hwritten
    left
    rw [getLast?_take h.nonempty hstop]
    change ∀ c ∈ (t.span.slice text).getLast?, _
    rw [h.slice, hwritten.1]
    rintro c hc
    cases s <;> cases hc <;> rfl
  | keyword k =>
    rw [hkind] at hwritten
    exact Or.inr (hword hwritten.2.1)
  | identifier =>
    rw [hkind] at hwritten
    exact Or.inr (hword hwritten.2.1)
  | integer value =>
    rw [hkind] at hwritten
    exact Or.inr hwritten.2.1
  | real bits =>
    rw [hkind] at hwritten
    obtain ⟨whole, fraction, -, -, -, hstops, -⟩ := hwritten
    exact Or.inr hstops

/-- **Tokens and gaps break no run of digits.** -/
theorem Tiling.unbroken {start stop : Nat} {ts : List Token} (h : Tiling text start stop ts)
    (hstart : Unbroken text start) : Unbroken text stop := by
  induction ts generalizing start with
  | nil =>
    obtain ⟨hle, hstop, htrivia⟩ := tiling_nil_iff.1 h
    exact hstart.gap hle hstop htrivia
  | cons t ts ih =>
    obtain ⟨-, -, hstands, hrest⟩ := tiling_cons_iff.1 h
    exact ih hrest (hstands.unbroken (Nat.le_trans hrest.start_le hrest.stop_le))

/-- The first lexical fault of a source breaks no run of digits in front of it. -/
theorem isDigit_getLast?_of_tokens {c : Char} {fault : Fault} (h : tokens source = .error fault)
    (hfirst : (fault.span.slice source.toList).head? = some c) (hc : c.isDigit = true) :
    ∀ d ∈ (source.toList.take fault.span.start).getLast?, d.isDigit = false := by
  obtain ⟨ts, hts, hstands⟩ := tokens_eq_error_iff_tiling.1 h
  rcases hts.unbroken (Or.inl (by simp)) with hfront | hstops
  · exact hfront
  · -- The run would have to stop in front of a digit.
    rw [← Span.slice_append_drop (Nat.le_of_lt hstands.nonempty)] at hstops
    have hdigit := hstops c (by rw [List.head?_append, hfirst]; rfl)
    rw [hc] at hdigit
    cases hdigit

/-! ## What a fault points at -/

/-- The text of the source under the span of the fault. -/
def Fault.shown (source : String) (fault : Fault) : String :=
  String.ofList (fault.span.slice source.toList)

theorem Fault.shown_of_slice {fault : Fault} {name : String}
    (h : fault.span.slice source.toList = name.toList) : fault.shown source = name := by
  rw [shown, h, String.ofList_toList]

/-- Under the span of the fault stands the culprit that its cause tells of, and where the message
quotes the culprit it quotes what stands there. -/
def Fault.Shows (source : String) (mode : Mode) (limit : Nat) (fault : Fault) : Prop :=
  match fault.cause with
  | .unexpectedCharacter c =>
    fault.diagnostic.message = "Unexpected character: '" ++ escapeChar c ++ "'" ∧
      fault.span.slice source.toList = [c]
  | .unterminatedComment =>
    fault.diagnostic.message = "Unterminated comment" ∧
      ∃ body, fault.span.slice source.toList = '{' :: body ∧ '}' ∉ body ∧
        fault.span.stop = source.length
  | .integerOutOfRange digits =>
    fault.diagnostic.message = "Integer literal out of range: " ++ fault.shown source ∧
      fault.span.slice source.toList = digits.toList ∧ IsDigits digits.toList ∧
      (∀ c ∈ (source.toList.take fault.span.start).getLast?, c.isDigit = false) ∧
      Stops Char.isDigit (source.toList.drop fault.span.stop)
  | .mismatch _ found | .trailing _ found =>
    ∀ kind ∈ found, ∃ t, .token t ∈ (Cursor.ofSource source).items ∧ t.kind = kind ∧
      t.span = fault.span
  | .realOperand text =>
    fault.diagnostic.message = "Real literal '" ++ fault.shown source ++ "' is not allowed here" ∧
      ∃ t bits, .token t ∈ (Cursor.ofSource source).items ∧ t.kind = .real bits ∧
        t.text = text ∧ t.span = fault.span
  | .nestingTooDeep bound =>
    fault.diagnostic.message = "Nesting too deep (limit is " ++ limit.repr ++ ")" ∧
      bound = limit ∧ ∃ t, .token t ∈ (Cursor.ofSource source).items ∧ t.Opens ∧
        t.text ∈ ["BEGIN", "(", "+", "-"] ∧ t.span = fault.span
  | .undefinedVariable name =>
    fault.diagnostic.message = "Undefined variable '" ++ fault.shown source ++ "'" ∧
      fault.span.slice source.toList = name.toList ∧
      ∃ tree, parse source mode limit = .ok tree ∧ tree.FailsAt (.var ⟨name, fault.span⟩) fault
  | .divisionByZero =>
    fault.diagnostic.message = "Division by zero" ∧
      ∃ tree left right span, parse source mode limit = .ok tree ∧
        tree.FailsAt (.binary .div left right span) fault ∧ fault.span = right.span
  | .integerOverflow =>
    fault.diagnostic.message = "Integer overflow" ∧
      ∃ tree node, parse source mode limit = .ok tree ∧ tree.FailsAt node fault ∧
        ((∃ sign operand, node = .unary sign operand fault.span) ∨
          ∃ op left right, node = .binary op left right fault.span)

/-- The fault points at its culprit in the source. -/
structure Fault.PointsAtCulprit (source : String) (mode : Mode) (limit : Nat) (fault : Fault) :
    Prop where
  /-- If the end of the source is the culprit, the span lies behind the last character. -/
  atEnd : fault.cause.foundEnd = true → fault.span = ⟨source.length, source.length + 1⟩
  /-- Otherwise the span holds at least one character and lies in the source. -/
  inside : fault.cause.foundEnd = false →
    fault.span.start < fault.span.stop ∧ fault.span.stop ≤ source.length
  /-- The culprit stands under the span. -/
  shows : fault.Shows source mode limit

variable {mode : Mode} {limit : Nat} {fault : Fault}

/-- A fault that is not about the end of the source points into it. -/
theorem Fault.PointsAtCulprit.of_inside (hend : fault.cause.foundEnd = false)
    (hnonempty : fault.span.start < fault.span.stop)
    (hstop : fault.span.stop ≤ source.toList.length) (hshows : fault.Shows source mode limit) :
    fault.PointsAtCulprit source mode limit := by
  rw [String.length_toList] at hstop
  refine ⟨?_, fun _ => ⟨hnonempty, hstop⟩, hshows⟩
  rw [hend]
  intro hfalse
  cases hfalse

/-- A fault about the end of the source points behind it, where no token is to be seen. -/
theorem Fault.PointsAtCulprit.of_atEnd (hend : fault.cause.foundEnd = true)
    (hspan : fault.span = .single source.length) : fault.PointsAtCulprit source mode limit := by
  refine ⟨fun _ => hspan, ?_, ?_⟩
  · rw [hend]
    intro hfalse
    cases hfalse
  · obtain ⟨cause, span⟩ := fault
    have hnone : ∀ kind ∈ (none : Option Kind), ∃ t,
        .token t ∈ (Cursor.ofSource source).items ∧ t.kind = kind ∧ t.span = span := by
      intro kind hkind
      cases hkind
    cases cause with
    | mismatch expected found =>
      cases found with
      | none => exact hnone
      | some kind => cases hend
    | trailing mode found =>
      cases found with
      | none => exact hnone
      | some kind => cases hend
    | _ => cases hend

/-! ## Faults of parsing -/

/-- The tokens that open groups are written in one way each. -/
theorem Token.Opens.text_mem {t : Token} (h : t.Opens) (hstands : t.StandsIn text) :
    t.text ∈ ["BEGIN", "(", "+", "-"] := by
  have hwritten := hstands.written
  have hsymbol : ∀ s : Symbol, t.kind = .symbol s → t.text = s.text := by
    intro s hkind
    rw [hkind] at hwritten
    exact String.toList_inj.1 hwritten.1
  rcases h with hkind | hkind | hkind | hkind
  · rw [hkind] at hwritten
    have htext : t.text = Keyword.blockBegin.text := by
      rw [← hwritten.2.2, String.ofList_toList]
    simp [htext, Keyword.text]
  · simp [hsymbol _ hkind, Symbol.text]
  · simp [hsymbol _ hkind, Symbol.text]
  · simp [hsymbol _ hkind, Symbol.text]

/-- The first lexical fault of a source points at the characters that make up no token. -/
theorem pointsAtCulprit_of_tokens (h : tokens source = .error fault) :
    fault.PointsAtCulprit source mode limit := by
  obtain ⟨ts, -, hstands⟩ := tokens_eq_error_iff_tiling.1 h
  have hnonempty := hstands.nonempty
  have hstop := hstands.stop_le
  have hspoils := hstands.spoils
  obtain ⟨cause, span⟩ := fault
  cases cause with
  | unexpectedCharacter c => exact .of_inside rfl hnonempty hstop ⟨rfl, hspoils.1⟩
  | unterminatedComment =>
    obtain ⟨body, hslice, hbody, hrest⟩ := hspoils
    refine .of_inside rfl hnonempty hstop ⟨rfl, body, hslice, hbody, ?_⟩
    rw [← String.length_toList]
    exact Nat.le_antisymm hstop (List.drop_eq_nil_iff.1 hrest)
  | integerOutOfRange digits =>
    obtain ⟨hdigits, hstops, -, -, hslice⟩ := hspoils
    have hdigits' : span.slice source.toList = digits.toList := by
      rw [hslice, String.toList_ofList]
    refine .of_inside rfl hnonempty hstop ⟨?_, hdigits', ?_, ?_, hstops⟩
    · rw [Fault.shown_of_slice hdigits']
      rfl
    · rwa [← hdigits']
    · obtain ⟨c, rest, hcons⟩ := List.exists_cons_of_ne_nil hdigits.1
      refine isDigit_getLast?_of_tokens h (c := c) ?_ (hdigits.2 c ?_)
      · rw [hcons]
        rfl
      · rw [hcons]
        exact List.mem_cons_self
  | _ => cases hspoils

/-- **A fault of the parser points at its culprit.** -/
theorem Refusal.pointsAtCulprit (h : Refusal source limit fault) :
    fault.PointsAtCulprit source mode limit := by
  cases h with
  | atEnd c =>
    have hend := c.foundEnd_complaint_none
    exact .of_atEnd hend rfl
  | @refused c t ht =>
    obtain ⟨hstands, hstop⟩ := standsIn_of_mem_items ht
    have hshows : ∀ kind ∈ some t.kind, ∃ u, .token u ∈ (Cursor.ofSource source).items ∧
        u.kind = kind ∧ u.span = t.span := by
      rintro kind ⟨⟩
      exact ⟨t, ht, rfl, rfl⟩
    rcases c.complaint_some_cases t with ⟨expected, hcause⟩ | ⟨other, hcause⟩ |
      ⟨bits, hbits, hcause⟩
    · rw [hcause]
      exact .of_inside rfl hstands.nonempty hstop hshows
    · rw [hcause]
      exact .of_inside rfl hstands.nonempty hstop hshows
    · rw [hcause]
      refine .of_inside rfl hstands.nonempty hstop ⟨?_, t, bits, ht, hbits, rfl, rfl⟩
      rw [Fault.shown_of_slice hstands.slice]
      rfl
  | @tooDeep t ht hopens =>
    obtain ⟨hstands, hstop⟩ := standsIn_of_mem_items ht
    exact .of_inside rfl hstands.nonempty hstop
      ⟨rfl, rfl, t, ht, hopens, hopens.text_mem hstands, rfl⟩
  | lexical h => exact pointsAtCulprit_of_tokens h

/-! ## Faults of running -/

variable {ts : List Token} {tree : Tree} {e node : Expr} {env : Environment}

/-- The nodes of an expression stand where it does. -/
theorem Expr.Reaches.standsIn (h : e.Reaches env node) (he : e.StandsIn text ts) :
    node.StandsIn text ts := by
  induction h with
  | here e => exact he
  | operand _ ih => exact ih he.2.2.2
  | left _ ih => exact ih he.2.2.2.2.1
  | right _ _ ih => exact ih he.2.2.2.2.2

mutual

/-- The right-hand sides of a statement stand where it does. -/
theorem Stmt.StandsIn.assignments :
    ∀ s : Stmt, s.StandsIn text ts → ∀ a ∈ s.assignments, a.value.StandsIn text ts
  | .assignment target value span => by
    rintro ⟨-, -, -, -, -, hvalue⟩ a ha
    obtain rfl := List.mem_singleton.1 ha
    exact hvalue
  | .compound body span => fun h => Stmt.AllStandIn.assignments body h.2.2
  | .empty span => by
    intro _ a ha
    cases ha

theorem Stmt.AllStandIn.assignments :
    ∀ body : List Stmt, Stmt.AllStandIn text ts body →
      ∀ a ∈ Stmt.assignmentsList body, a.value.StandsIn text ts
  | [] => by
    intro _ a ha
    cases ha
  | s :: rest => by
    rintro ⟨hs, hrest⟩ a ha
    rcases List.mem_append.1 ha with ha | ha
    · exact Stmt.StandsIn.assignments s hs a ha
    · exact Stmt.AllStandIn.assignments rest hrest a ha

end

/-- What the run of a tree evaluates stands where the tree does. -/
theorem Tree.Evaluates.standsIn (h : tree.Evaluates env e) (htree : tree.StandsIn text ts) :
    e.StandsIn text ts := by
  cases h with
  | expr e => exact htree
  | @assignment s front back a env hassignments hfront =>
    apply Stmt.StandsIn.assignments s htree a
    rw [hassignments]
    exact List.mem_append_right _ List.mem_cons_self

/-- **A fault of a run points at its culprit.** -/
theorem Tree.FailsAt.pointsAtCulprit (hparse : parse source mode limit = .ok tree)
    (htree : tree.StandsIn source.toList ts) (h : tree.FailsAt node fault) :
    fault.PointsAtCulprit source mode limit := by
  have hnode : node.StandsIn source.toList ts := by
    obtain ⟨env, e, hevaluates, hreaches, -⟩ := h
    exact hreaches.standsIn (hevaluates.standsIn htree)
  obtain ⟨env, hfails⟩ : ∃ env, node.Fails env fault := by
    obtain ⟨env, e, -, -, hfails⟩ := h
    exact ⟨env, hfails⟩
  have hspan := hnode.bounded
  cases hfails with
  | @unbound v hv =>
    refine .of_inside rfl hspan.nonempty hspan.stop_le ⟨?_, hnode.slice, tree, hparse, h⟩
    rw [Fault.shown_of_slice hnode.slice]
    rfl
  | @signed sign operand span w hoperand hrange =>
    exact .of_inside rfl hspan.nonempty hspan.stop_le
      ⟨rfl, tree, _, hparse, h, Or.inl ⟨sign, operand, rfl⟩⟩
  | @divisor left right span l r hl hr hzero hliteral =>
    -- The fault stands at the divisor and not at the division.
    have hdivisor := Expr.StandsIn.bounded hnode.2.2.2.2.2
    exact .of_inside rfl hdivisor.nonempty hdivisor.stop_le
      ⟨rfl, tree, left, right, span, hparse, h, rfl⟩
  | @combined op left right span l r hl hr hrange =>
    exact .of_inside rfl hspan.nonempty hspan.stop_le
      ⟨rfl, tree, _, hparse, h, Or.inr ⟨op, left, right, rfl⟩⟩

/-! ## All faults -/

/-- **Every fault of a source points at its culprit.** -/
theorem fault_points_at_culprit (h : run source mode limit = .error fault) :
    fault.PointsAtCulprit source mode limit := by
  rcases bind_eq_error_iff.1 h with hparse | ⟨tree, hparse, hrun⟩
  · exact (refusal_of_parse hparse).pointsAtCulprit
  · obtain ⟨d, hitems, -, rfl⟩ := parse_eq_ok_iff.1 hparse
    obtain ⟨node, hfails⟩ := Tree.run_eq_error_iff.1 hrun
    exact hfails.pointsAtCulprit hparse (Grammar.Derivation.standsIn_source hitems)

/-- In `BEGIN a := 0; b := 6 / (a - a) END.` the divisor stands inside the parentheses, and in
`1 +` the culprit is the end. -/
theorem fault_points_at_culprit_divisor :
    Fault.PointsAtCulprit "BEGIN a := 0; b := 6 / (a - a) END." .program 2
      ⟨.divisionByZero, ⟨24, 29⟩⟩ ∧
    Fault.PointsAtCulprit "1 +" .expression 2 ⟨.mismatch .operand none, ⟨3, 4⟩⟩ :=
  ⟨fault_points_at_culprit (by decide +kernel), fault_points_at_culprit (by decide +kernel)⟩

end MiniPascal

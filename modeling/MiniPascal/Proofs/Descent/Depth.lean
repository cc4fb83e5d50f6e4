/-
# The groups that count as open

The counter of open groups over the life of a parser.  A group is counted off only while it counts
as open.  A call that comes to a tree leaves the counter as it was, and one that comes to a fault
raises it by the groups that are open behind the tokens it has taken.  All that a call makes of the
counter's value is the room it leaves below the limit, so a call with groups that count as open is
one without them under a lower limit.  Main statements:

* `openBehind_eq` : the groups that are open behind viable tokens, in any source that goes on;
* `ofAhead_withLimit` : two readings with the same room differ in the limit that a fault tells of;
* `depth_accounted` : what each call in the life of a parser does to the counter.
-/
import MiniPascal.Proofs.Descent.Statements
import MiniPascal.Proofs.Parser.Conservation
import MiniPascal.Proofs.Parser.LexicalFault

namespace MiniPascal

open Config Grammar

/-! ## Groups behind tokens -/

/-- The number of groups that are open behind the first `n` tokens: in front of the token behind
them, or none at the end. -/
def Grammar.Derivation.openBehind {mode : Mode} (d : Derivation mode) (n : Nat) : Nat :=
  d.depths[n]?.getD 0

variable {mode : Mode} {ts : List Token} {ds : List Nat} {c : Config}

/-- **The groups that are open behind viable tokens** do not depend on how the source goes on. -/
theorem Grammar.Derivation.openBehind_eq (d : Derivation mode) (h : Reads (start mode) ts ds c)
    (hts : ts <+: d.yield) : d.openBehind ts.length = c.groups := by
  obtain ⟨us, hus⟩ := hts
  obtain ⟨last, hreads, hend⟩ := d.reads
  rw [← hus] at hreads
  obtain ⟨as, bs, e, hdepths, hfront, hback⟩ := hreads.exists_of_append
  obtain ⟨rfl, rfl⟩ := h.unique hfront
  unfold openBehind
  rw [hdepths, ← h.length_eq, List.getElem?_append_right (Nat.le_refl _), Nat.sub_self]
  cases us with
  | nil =>
    cases hback
    exact (groups_of_tree? hend).symm
  | cons u us =>
    obtain ⟨m, fs, -, rfl, -⟩ := hback.exists_move
    rfl

variable {bounds bounds' : Bounds} {taken before : List Token} {a : Ahead} {outcome : Parse}

/-- A halt leaves open what the tokens that have been taken leave open. -/
theorem Parse.Halts.exists_reads (h : Halts bounds (ts.reverse ++ before) c a outcome)
    (hreads : Reads (start mode) ts ds c) :
    ∃ front es d, Reads (start mode) front es d ∧ outcome.taken = front.reverse ++ before ∧
      outcome.groups = d.groups := by
  cases h with
  | atEnd =>
    refine ⟨ts, ds, c, hreads, ?_⟩
    unfold Parse.atEnd
    split
    · exact ⟨rfl, rfl⟩
    · exact ⟨rfl, rfl⟩
  | refused hmove => exact ⟨ts, ds, c, hreads, rfl, rfl⟩
  | fault hmove => exact ⟨ts, ds, c, hreads, rfl, rfl⟩
  -- The token that opens a group too many has been taken, and its group counts.
  | @tooDeep t m a hmove hdeep =>
    refine ⟨ts ++ [t], ds ++ [c.groups], m.next, hreads.trans (.single hmove), ?_, rfl⟩
    rw [List.reverse_append]
    rfl

/-! ## Readings with the same room -/

/-- The cause, with another limit if it tells of one. -/
def Cause.withLimit (limit : Nat) : Cause → Cause
  | nestingTooDeep _ => nestingTooDeep limit
  | cause => cause

/-- The fault, with another limit if it tells of one. -/
def Fault.withLimit (limit : Nat) (fault : Fault) : Fault :=
  ⟨fault.cause.withLimit limit, fault.span⟩

/-- The outcome, with another limit if its fault tells of one. -/
def Parse.withLimit (limit : Nat) (outcome : Parse) : Parse :=
  ⟨outcome.result.mapError (Fault.withLimit limit), outcome.groups, outcome.ahead, outcome.taken⟩

/-- No lexical fault tells of a limit. -/
theorem Fault.withLimit_of_lexical {fault : Fault} (h : fault.cause.faultClass = .lexical)
    (limit : Nat) : fault.withLimit limit = fault := by
  obtain ⟨cause, span⟩ := fault
  cases cause <;> first | rfl | cases h

/-- What is said about a token, or the end, that is refused tells of no limit. -/
theorem Config.withLimit_complaint (found : Option Token) (c : Config) (limit : Nat) :
    (c.complaint found).withLimit limit = c.complaint found := by
  cases c with
  | operand goal level outer =>
    rcases found with _ | ⟨kind, text, span⟩
    · rfl
    · cases kind <;> rfl
  | operator goal sum term outer => cases goal <;> cases outer <;> rfl
  | _ => rfl

/-- All faults ahead are lexical ones. -/
def Ahead.Lexical (a : Ahead) : Prop :=
  ∀ fault, .fault fault ∈ a.items → fault.cause.faultClass = .lexical

/-- A halt is one with the same room, too. -/
theorem Parse.Halts.ofAhead_eq (h : Halts bounds taken c a outcome)
    (hstop : bounds'.stop = bounds.stop) (hroom : bounds'.room = bounds.room)
    (hc : c.groups ≤ bounds.room) (hlexical : a.Lexical) :
    ofAhead bounds' taken c a = outcome.withLimit bounds'.limit := by
  cases h with
  | atEnd =>
    rw [ofAhead]
    unfold Parse.atEnd
    cases hend : c.tree? with
    | some tree => rfl
    | none =>
      show _ = Parse.mk (.error ⟨_, _⟩) _ _ _
      rw [withLimit_complaint, hstop]
  | @refused t rest hmove =>
    rw [ofAhead, run_of_refused hmove]
    show _ = Parse.mk (.error ⟨_, _⟩) _ _ _
    rw [withLimit_complaint]
    rfl
  | @fault t m fault rest hmove =>
    have hclass := hlexical fault (List.mem_cons_of_mem _ List.mem_cons_self)
    rw [ofAhead, run_of_fault hmove]
    show _ = Parse.mk (.error (fault.withLimit _)) _ _ _
    rw [Fault.withLimit_of_lexical hclass]
  | @tooDeep t m a hmove hdeep =>
    rw [← hroom] at hc hdeep
    rw [ofAhead, run_of_tooDeep hmove hc hdeep]
    rfl

/-- **Two readings with the same room differ in the limit that a fault tells of**, and in nothing
else. -/
theorem Parse.ofAhead_withLimit (taken : List Token) (hstop : bounds'.stop = bounds.stop)
    (hroom : bounds'.room = bounds.room) (hc : c.groups ≤ bounds.room) (hlexical : a.Lexical) :
    ofAhead bounds' taken c a = (ofAhead bounds taken c a).withLimit bounds'.limit := by
  obtain ⟨ts, ds, d, b, hreads, hds, hd, hitems, hhalts⟩ := exists_halts taken a hc
  have hbehind : b.Lexical := by
    intro fault hfault
    refine hlexical fault ?_
    rw [hitems]
    exact List.mem_append_right _ hfault
  -- The other reading takes the same tokens, and it halts behind them as well.
  have hds' : ∀ n ∈ ds, n ≤ bounds'.room := hroom ▸ hds
  obtain ⟨a', ha', hrun⟩ := ofAhead_of_reads hreads hds' (hroom ▸ hd) taken b
  obtain rfl : a' = a := Ahead.eq_of_items (ha'.trans hitems.symm)
  rw [hrun]
  exact hhalts.ofAhead_eq hstop hroom hd hbehind

/-! ## The life of a parser -/

namespace Parser

/-- A call takes the tokens of a reading, and it leaves open what they leave open. -/
theorem exists_reads_of_parse (parser : Parser) (mode : Mode) :
    ∃ front ds c, Reads (start mode) front ds c ∧
      (parser.parse mode).2.taken = front.reverse ++ parser.taken ∧
      (parser.parse mode).2.bounds.depth = parser.bounds.depth + c.groups := by
  obtain ⟨ts, ds, c, a, outcome, hreads, -, -, -, hhalts, hparse⟩ :=
    parser.exists_halts_of_parse mode
  obtain ⟨front, es, d, hfront, htaken, hgroups⟩ := hhalts.exists_reads hreads
  rw [hparse]
  exact ⟨front, es, d, hfront, htaken, congrArg (parser.bounds.depth + ·) hgroups⟩

/-- A call that comes to a tree leaves no group open. -/
theorem depth_of_parse {parser : Parser} {tree : Tree} (h : (parser.parse mode).1 = .ok tree) :
    (parser.parse mode).2.bounds.depth = parser.bounds.depth := by
  obtain ⟨ts, ds, c, a, outcome, -, -, -, -, hhalts, hparse⟩ := parser.exists_halts_of_parse mode
  rw [hparse] at h ⊢
  obtain ⟨rfl, hend⟩ := hhalts.result_eq_ok_iff.1 h
  cases hhalts with
  | atEnd =>
    have hgroups : c.groups = 0 := groups_of_tree? hend
    unfold Parse.atEnd behind
    rw [hend, hgroups]
    rfl

/-- A call leaves behind only items that were ahead of it. -/
theorem items_sublist_of_parse (parser : Parser) (mode : Mode) :
    (parser.parse mode).2.ahead.items.Sublist parser.ahead.items := by
  obtain ⟨ts, ds, c, a, outcome, -, -, -, hitems, hhalts, hparse⟩ :=
    parser.exists_halts_of_parse mode
  rw [hparse, hitems]
  have hahead : outcome.ahead.items.Sublist a.items := by
    cases hhalts with
    | atEnd =>
      unfold Parse.atEnd
      split
      · exact List.Sublist.refl _
      · exact List.Sublist.refl _
    | refused hmove => exact List.Sublist.refl _
    | fault hmove => exact (List.sublist_cons_self _ _).cons_cons _
    | tooDeep hmove hdeep => exact List.sublist_cons_self _ _
  exact hahead.trans (List.sublist_append_right _ _)

/-- What the calls so far leave as it is: the length of the source, the limit, and that there are no
faults ahead but lexical ones. -/
theorem after_unchanged {first : Parser} (h : first.ahead.Lexical) (modes : List Mode) :
    (first.after modes).bounds.stop = first.bounds.stop ∧
      (first.after modes).bounds.limit = first.bounds.limit ∧
      (first.after modes).ahead.Lexical := by
  induction modes generalizing first with
  | nil => exact ⟨rfl, rfl, h⟩
  | cons mode modes ih =>
    have hlexical : (first.parse mode).2.ahead.Lexical := by
      intro fault hfault
      exact h fault ((first.items_sublist_of_parse mode).subset hfault)
    exact ih hlexical

/-- At the start of a source. -/
theorem ofSource_bounds {source : String} {limit : Nat} {first : Parser}
    (h : ofSource source limit = .ok first) :
    first.bounds = .first source limit ∧ first.ahead.Lexical := by
  rcases Ahead.items_cases (Cursor.ofSource source).items with ⟨a, ha⟩ | ⟨fault, rest, hfault⟩
  · rw [ofSource_of_items ha.symm] at h
    obtain rfl := Except.ok.inj h
    refine ⟨rfl, fun fault hfault => ?_⟩
    rw [ha] at hfault
    exact Cursor.faultClass_of_mem_items hfault
  · rw [ofSource_of_fault hfault] at h
    cases h

end Parser

/-- **What each call in the life of a parser does to the number of groups that count as open**,
whatever the calls before it have come to.  The routines never count off a group while none counts
as open.  A tree leaves the number as it was; a fault raises it by the groups that are open behind
the tokens that the call has taken, the one that is too many among them.  And the call comes to what
it would come to without any group that counts as open, under a limit that is lower by their number:
to the same tree or fault but for the limit that the fault tells of, with the same tokens taken, and
with the same groups left open. -/
theorem depth_accounted {source : String} {limit : Nat} {first : Parser}
    (h : Parser.ofSource source limit = .ok first) (modes : List Mode) (mode : Mode)
    {parser after : Parser} {result : Except Fault Tree} (hparser : first.after modes = parser)
    (hcall : parser.parse mode = (result, after)) :
    Descent.Setting.whole ⟨source.length, limit⟩ mode (.ofParser parser) =
        some (result.mapError .fault, .ofParser after) ∧
    (∀ s, Descent.Setting.whole ⟨source.length, limit⟩ mode (.ofParser parser) ≠
      some (.error .uncounted, s)) ∧
    (∀ tree, result = .ok tree → after.bounds.depth = parser.bounds.depth) ∧
    (∀ fault, result = .error fault →
      ∃ front, after.taken = front.reverse ++ parser.taken ∧ Viable mode front ∧
        ∀ d : Derivation mode, front <+: d.yield →
          after.bounds.depth = parser.bounds.depth + d.openBehind front.length) ∧
    ∃ result' after',
      Parser.parse ⟨⟨source.length, limit - parser.bounds.depth, 0⟩, parser.ahead, parser.taken⟩
        mode = (result', after') ∧
      result = result'.mapError (Fault.withLimit limit) ∧
      after.taken = after'.taken ∧ after.ahead = after'.ahead ∧
      after.bounds.depth = parser.bounds.depth + after'.bounds.depth := by
  obtain ⟨hbounds, hlexical⟩ := Parser.ofSource_bounds h
  obtain ⟨hstop, hlimit, hlexical⟩ := Parser.after_unchanged hlexical modes
  rw [hparser, hbounds] at hstop hlimit
  rw [hparser] at hlexical
  replace hstop : parser.bounds.stop = source.length := hstop
  replace hlimit : parser.bounds.limit = limit := hlimit
  have hsetting : parser.bounds.setting = ⟨source.length, limit⟩ := by
    rw [Bounds.setting, hstop, hlimit]
  have hwhole := Descent.whole_eq parser mode
  rw [hsetting, hcall] at hwhole
  refine ⟨hwhole, ?_, ?_, ?_, ?_⟩
  · intro s hs
    rw [hwhole] at hs
    rcases result with fault | tree
    · cases hs
    · cases hs
  · intro tree htree
    have hok : (parser.parse mode).1 = .ok tree := by
      rw [hcall]
      exact htree
    have hdepth := Parser.depth_of_parse hok
    rw [hcall] at hdepth
    exact hdepth
  · intro fault _
    obtain ⟨front, ds, c, hreads, htaken, hdepth⟩ := parser.exists_reads_of_parse mode
    rw [hcall] at htaken hdepth
    refine ⟨front, htaken, viable_iff_exists_reads.2 ⟨ds, c, hreads⟩, fun d hd => ?_⟩
    rw [d.openBehind_eq hreads hd]
    exact hdepth
  · -- Without any group that counts as open, the lower limit leaves the same room.
    have hroom : parser.bounds.room =
        Bounds.room ⟨source.length, limit - parser.bounds.depth, 0⟩ := by
      unfold Bounds.room
      rw [hlimit]
      exact (Nat.sub_zero _).symm
    have hgroups : (start mode).groups ≤
        Bounds.room ⟨source.length, limit - parser.bounds.depth, 0⟩ := by
      rw [groups_start]
      exact Nat.zero_le _
    have hsame := Parse.ofAhead_withLimit parser.taken hstop hroom hgroups hlexical
    rw [hlimit] at hsame
    rw [Parser.parse, hsame] at hcall
    obtain ⟨rfl, rfl⟩ := Prod.mk.inj hcall
    refine ⟨_, _, rfl, rfl, rfl, rfl, ?_⟩
    show _ = parser.bounds.depth + (0 + _)
    rw [Nat.zero_add]
    rfl

/-- In `((1(2` with room for two groups, the first call stops at the third parenthesis, which does
not belong there.  The second call starts with it, and now it is too deep. -/
theorem depth_accounted_parentheses :
    let paren : Nat → Token := fun start => ⟨.symbol .leftParen, "(", ⟨start, start + 1⟩⟩
    let one : Token := ⟨.integer ⟨1, by decide, by decide⟩, "1", ⟨2, 3⟩⟩
    let two : Token := ⟨.integer ⟨2, by decide, by decide⟩, "2", ⟨4, 5⟩⟩
    let first : Parser := ⟨.first "((1(2" 2, .token (paren 0)
      [.token (paren 1), .token one, .token (paren 3), .token two], []⟩
    let second : Parser :=
      ⟨⟨5, 2, 2⟩, .token (paren 3) [.token two], [one, paren 1, paren 0]⟩
    let third : Parser := ⟨⟨5, 2, 3⟩, .token two [], [paren 3, one, paren 1, paren 0]⟩
    let fault : Fault := ⟨.nestingTooDeep 2, ⟨3, 4⟩⟩
    Parser.ofSource "((1(2" 2 = .ok first ∧ first.after [.expression] = second ∧
      second.parse .expression = (.error fault, third) ∧
      Descent.Setting.whole ⟨5, 2⟩ .expression (.ofParser second) =
        some (.error (.fault fault), .ofParser third) ∧
      (∃ front, third.taken = front.reverse ++ second.taken ∧ Viable .expression front ∧
        ∀ d : Derivation .expression, front <+: d.yield → 3 = 2 + d.openBehind front.length) ∧
      ∃ result' after', Parser.parse ⟨⟨5, 0, 0⟩, second.ahead, second.taken⟩ .expression =
        (result', after') ∧ .error fault = result'.mapError (Fault.withLimit 2) ∧
        third.taken = after'.taken ∧ third.ahead = after'.ahead ∧ 3 = 2 + after'.bounds.depth := by
  intro paren one two first second third fault
  have hfirst : Parser.ofSource "((1(2" 2 = .ok first :=
    Parser.ofSource_of_items (a := first.ahead) (by decide +kernel)
  have hsecond : first.after [.expression] = second := rfl
  have hthird : second.parse .expression = (.error fault, third) := rfl
  obtain ⟨hwhole, -, -, hleft, hfresh⟩ :=
    depth_accounted hfirst [.expression] .expression hsecond hthird
  exact ⟨hfirst, hsecond, hthird, hwhole, hleft fault rfl, hfresh⟩

end MiniPascal

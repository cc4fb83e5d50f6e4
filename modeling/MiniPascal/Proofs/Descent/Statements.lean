/-
# The routines for statements and the parser

Behind a statement the parser may stand in one of several configurations: an assignment is complete
only once what is behind it is in view, and so is an empty statement.  They have in common what may
come next, which is a semicolon or the end of the block, and this is all that the routines need to
go on.  Main statements:

* `block_agrees_of` : the routine for blocks, on fewer items than its statements are read from;
* `statement_agrees` : the routine for statements, on any items;
* `whole_eq` : a call of the parser comes to what the routine for whole sources comes to.
-/
import MiniPascal.Proofs.Descent.Agreement

namespace MiniPascal

open Config

namespace Descent

variable {bounds : Bounds} {outcome : Parse} {s : State}

/-! ## Behind a statement -/

/-- The parser has read the statements of the blocks, and what comes next is what comes behind a
statement. -/
structure Behind (bounds : Bounds) (outcome : Parse) (blocks : Blocks) (c : Config) (s : State) :
    Prop where
  /-- The parser stands in the configuration. -/
  stands : Stands bounds outcome c c.groups s
  /-- The blocks are all that is open. -/
  groups_eq : c.groups = blocks.depth
  /-- The source may not end here. -/
  tree?_eq : c.tree? = none
  /-- The end of the block is what would help. -/
  complaint_eq : c.complaint s.ahead.current? = mismatch .blockEnd s.ahead.current?
  /-- A semicolon or the end of the block leads on. -/
  move?_eq : ∀ t, s.ahead.current? = some t → c.move? t = afterStatement? blocks t

variable {blocks : Blocks}

/-- A statement is empty if what is in view neither opens a block nor is a name. -/
theorem behind_nothing (h : Stands bounds outcome (.statement blocks) blocks.depth s)
    (hblock : s.ahead.current?.map Token.kind ≠ some (.keyword .blockBegin))
    (hname : s.ahead.current?.map Token.kind ≠ some .identifier) :
    Behind bounds outcome (blocks.add (.empty (.emptyAt (s.place bounds.stop).start)))
      (.statement blocks) s := by
  refine ⟨h, rfl, rfl, rfl, ?_⟩
  intro t ht
  rw [ht, Option.map_some] at hblock hname
  unfold State.place
  rw [ht]
  show statement? blocks t = _
  unfold statement?
  split
  · next hkind => exact absurd (congrArg some hkind) hblock
  · next hkind => exact absurd (congrArg some hkind) hname
  · rfl

/-- An assignment ends where its value does. -/
theorem Complete.behind {target : Variable} {e : Expr}
    (h : Complete bounds outcome (.assignment target blocks) [] e s) :
    ∃ c, Behind bounds outcome
      (blocks.add (.assignment target e (target.span.join e.span))) c s := by
  obtain ⟨sum, last, rfl, hstands, hnone⟩ := h
  refine ⟨_, hstands, rfl, rfl, rfl, ?_⟩
  intro t ht
  exact move?_operator_of_ne (hnone t ht)

/-! ## Blocks -/

/-- What the routine for statements does in the state. -/
def StatementAgrees (bounds : Bounds) (outcome : Parse) (s : State) : Prop :=
  ∀ blocks, Stands bounds outcome (.statement blocks) blocks.depth s →
    Agrees bounds outcome bounds.setting.statement s fun st after =>
      (∃ c, Behind bounds outcome (blocks.add st) c after) ∧ after.size ≤ s.size

/-- What the routine for further statements does in the state. -/
theorem statements_agree_of (bound : Nat)
    (hstatement : ∀ s, s.size < bound → StatementAgrees bounds outcome s) (opening : Span)
    (outer : List Block) :
    ∀ s, s.size ≤ bound → ∀ done c, Behind bounds outcome ⟨⟨opening, done⟩, outer⟩ c s →
      Agrees bounds outcome (bounds.setting.statements done) s fun body after =>
        (∃ done c, done.reverse = body ∧ Behind bounds outcome ⟨⟨opening, done⟩, outer⟩ c after ∧
          after.ahead.current?.map Token.kind ≠ some (.symbol .semicolon)) ∧
        after.size ≤ s.size := by
  intro s
  induction hn : s.size using Nat.strongRecOn generalizing s with
  | ind n ih =>
    intro hbound done c hbehind
    rw [Setting.statements]
    refine Agrees.inView ?_
    by_cases hkind : s.ahead.current?.map Token.kind = some (.symbol .semicolon)
    · rw [if_pos hkind]
      obtain ⟨t, ht, htkind⟩ := Option.map_eq_some_iff.1 hkind
      have hmove : c.move? t = some (.shift (.statement ⟨⟨opening, done⟩, outer⟩)) := by
        rw [hbehind.move?_eq t ht, afterStatement?_eq_some_iff]
        exact Or.inl ⟨htkind, rfl⟩
      refine (advance_agrees hbehind.stands ht hmove).bind ?_
      rintro u s₁ ⟨rfl, htook⟩
      have hsize₁ := htook.size_lt
      have hstands₁ := htook.stands
      rw [hbehind.groups_eq] at hstands₁
      refine (hstatement s₁ (by omega) _ hstands₁).bind ?_
      rintro next s₂ ⟨⟨c₂, hbehind₂⟩, hsize₂⟩
      have hrest := ih s₂.size (by omega) s₂ rfl (by omega) (next :: done) c₂ hbehind₂
      refine hrest.mono ?_
      rintro body s₃ ⟨hbody, hsize₃⟩
      exact ⟨hbody, by omega⟩
    · rw [if_neg hkind]
      exact .pure ⟨⟨done, c, rfl, hbehind, hkind⟩, Nat.le_of_eq hn⟩

/-- A block is read from `BEGIN` to the `END` that closes it. -/
theorem block_agrees_of (hstatement : ∀ s', s'.size < s.size → StatementAgrees bounds outcome s')
    {c : Config} {outer : List Block} (h : Stands bounds outcome c c.groups s)
    (hopening : ∀ t, s.ahead.current? = some t → ∀ m, c.move? t = some m ↔
      t.kind = .keyword .blockBegin ∧ m = .enter (.statement ⟨⟨t.span, []⟩, outer⟩))
    (hend : c.tree? = none)
    (hcomplaint : s.ahead.current?.map Token.kind ≠ some (.keyword .blockBegin) →
      c.complaint s.ahead.current? = mismatch .programBegin s.ahead.current?) :
    Agrees bounds outcome bounds.setting.block s fun st after =>
      (∃ inner ending, st = Blocks.closed ⟨inner, outer⟩ ending ∧
        Stands bounds outcome (endBlock ⟨inner, outer⟩ ending) outer.length after) ∧
      after.size < s.size := by
  rw [Setting.block]
  refine (consume_agrees h hopening hend hcomplaint).bind ?_
  rintro opening s₁ ⟨hmove, htook⟩
  refine (enter_agrees htook hmove).bind ?_
  rintro - s₂ ⟨hstands₂, hsize₂⟩
  refine (hstatement s₂ hsize₂ _ hstands₂).bind ?_
  rintro first s₃ ⟨⟨c₃, hbehind₃⟩, hsize₃⟩
  refine (statements_agree_of s.size hstatement opening.span outer s₃ (by omega) [first] c₃
    hbehind₃).bind ?_
  rintro body s₄ ⟨⟨done, c₄, rfl, hbehind₄, hnone⟩, hsize₄⟩
  -- Without a semicolon, only the end of the block leads on.
  have hclosing : ∀ t, s₄.ahead.current? = some t → ∀ m, c₄.move? t = some m ↔
      t.kind = .keyword .blockEnd ∧
        m = .shift (endBlock ⟨⟨opening.span, done⟩, outer⟩ t.span) := by
    intro t ht m
    rw [hbehind₄.move?_eq t ht, afterStatement?_eq_some_iff]
    refine or_iff_right fun hsemicolon => hnone ?_
    rw [ht, Option.map_some, hsemicolon.1]
  refine (consume_agrees hbehind₄.stands hclosing hbehind₄.tree?_eq
    fun _ => hbehind₄.complaint_eq).bind ?_
  rintro closing s₅ ⟨-, htook₅⟩
  have hstands₅ := htook₅.stands
  have hsize₅ := htook₅.size_lt
  rw [hbehind₄.groups_eq] at hstands₅
  refine (leave_agrees hstands₅).bind ?_
  rintro - s₆ ⟨hstands₆, hsize₆⟩
  exact .pure ⟨⟨⟨opening.span, done⟩, closing.span, rfl, hstands₆⟩, by omega⟩

/-! ## Statements -/

/-- An assignment is read from its target to the end of its value. -/
theorem assignment_agrees {t : Token}
    (h : Stands bounds outcome (.statement blocks) blocks.depth s)
    (ht : s.ahead.current? = some t) (hkind : t.kind = .identifier) :
    Agrees bounds outcome bounds.setting.assignment s fun st after =>
      (∃ c, Behind bounds outcome (blocks.add st) c after) ∧ after.size ≤ s.size := by
  have hmove : (Config.statement blocks).move? t =
      some (.shift (.target ⟨t.text, t.span⟩ blocks)) :=
    statement?_eq_some_iff.2 (Or.inr (Or.inl ⟨hkind, rfl⟩))
  rw [Setting.assignment]
  refine (name_agrees h ht hmove).bind ?_
  rintro target s₁ ⟨rfl, hstands₁, hsize₁⟩
  refine (consume_agrees hstands₁ (fun _ _ _ => move?_target_eq_some_iff) rfl fun _ => rfl).bind ?_
  rintro sign s₂ ⟨-, htook₂⟩
  have hsize₂ := htook₂.size_lt
  refine (expression_agrees s₂ _ [] htook₂.stands).bind ?_
  rintro value s₃ ⟨hcomplete, hsize₃⟩
  exact .pure ⟨hcomplete.behind, by omega⟩

theorem statement_agrees_of
    (hstatement : ∀ s', s'.size < s.size → StatementAgrees bounds outcome s') :
    StatementAgrees bounds outcome s := by
  intro blocks hstands
  rw [Setting.statement]
  refine Agrees.inView ?_
  split
  · next hview =>
    -- With `BEGIN` in view no other statement comes into question.
    have hopening : ∀ t, s.ahead.current? = some t → ∀ m,
        (Config.statement blocks).move? t = some m ↔
          t.kind = .keyword .blockBegin ∧ m = .enter (.statement (blocks.nest t.span)) := by
      intro t ht m
      rw [ht] at hview
      have hkind : t.kind = .keyword .blockBegin := Option.some.inj hview
      have hmove : (Config.statement blocks).move? t =
          some (.enter (.statement (blocks.nest t.span))) :=
        statement?_eq_some_iff.2 (Or.inl ⟨hkind, rfl⟩)
      rw [hmove, Option.some.injEq, eq_comm, and_iff_right hkind]
    have hblock := block_agrees_of hstatement hstands hopening rfl fun hne => absurd hview hne
    refine hblock.mono ?_
    rintro st s₁ ⟨⟨inner, ending, rfl, hstands₁⟩, hsize₁⟩
    exact ⟨⟨_, hstands₁, rfl, rfl, rfl, fun _ _ => rfl⟩, Nat.le_of_lt hsize₁⟩
  · next hview =>
    obtain ⟨t, ht, hkind⟩ := Option.map_eq_some_iff.1 hview
    exact assignment_agrees hstands ht hkind
  · next hblock hname =>
    exact Or.inl ⟨_, s, rfl, ⟨_, behind_nothing hstands hblock hname⟩, Nat.le_refl _⟩

/-- **The routine for statements does what the parser does**, on any items. -/
theorem statement_agrees (s : State) : StatementAgrees bounds outcome s := by
  induction hn : s.size using Nat.strongRecOn generalizing s with
  | ind n ih => exact statement_agrees_of fun s' hs' => ih s'.size (hn ▸ hs') s' rfl

/-! ## Whole sources -/

/-- The outcome is the tree, without an open group, where the routines stand. -/
def Finished (bounds : Bounds) (outcome : Parse) (tree : Tree) (s : State) : Prop :=
  outcome = ⟨.ok tree, 0, s.ahead, s.taken⟩ ∧ s.depth = bounds.depth

/-- Where a source may end, it ends or there is something behind it. -/
theorem expectEnd_agrees {c : Config} {tree : Tree} {mode : Mode}
    (h : Stands bounds outcome c 0 s) (htree : c.tree? = some tree)
    (hrefuses : ∀ t, s.ahead.current? = some t → c.move? t = none)
    (hcomplaint : ∀ found, c.complaint found = .trailing mode (found.map Token.kind)) :
    Agrees bounds outcome (expectEnd bounds.stop mode) s fun _ after =>
      Finished bounds outcome tree after := by
  have hgroups : c.groups = 0 := groups_of_tree? htree
  unfold expectEnd
  refine Agrees.inView ?_
  cases hahead : s.ahead with
  | finish =>
    refine .pure ⟨?_, h.depth_eq⟩
    have hout := h.outcome_eq
    rw [hahead, Parse.ofAhead, Parse.atEnd, htree, hgroups] at hout
    rw [← hout, hahead]
  | token t rest =>
    rw [← hgroups] at h
    have ht : s.ahead.current? = some t := by
      rw [hahead]
      rfl
    have hrefused : Refuses c s.ahead.current? := by
      rw [ht]
      exact hrefuses t ht
    show Agrees bounds outcome (fail bounds.stop fun found => .trailing mode (found.map Token.kind))
      s _
    exact fail_agrees h hrefused (hcomplaint _)

/-- **The routine for whole sources does what the parser does**, on any items. -/
theorem whole_agrees {mode : Mode} (h : Stands bounds outcome (start mode) 0 s) :
    Agrees bounds outcome (bounds.setting.whole mode) s fun tree after =>
      Finished bounds outcome tree after := by
  cases mode with
  | program =>
    refine (block_agrees_of (fun s' _ => statement_agrees s') h
      (fun _ _ _ => move?_begin_eq_some_iff) rfl fun _ => rfl).bind ?_
    rintro body s₁ ⟨⟨inner, ending, rfl, hstands₁⟩, -⟩
    refine (consume_agrees hstands₁ (fun _ _ _ => move?_dot_eq_some_iff) rfl fun _ => rfl).bind ?_
    rintro dot s₂ ⟨-, htook₂⟩
    refine (expectEnd_agrees htook₂.stands rfl (fun _ _ => rfl) fun _ => rfl).bind ?_
    intro _ s₃ hfinished
    exact .pure hfinished
  | expression =>
    refine (expression_agrees s .whole [] h).bind ?_
    rintro e s₁ ⟨⟨sum, last, rfl, hstands₁, hnone⟩, -⟩
    refine (expectEnd_agrees hstands₁ rfl (fun t ht => ?_) fun _ => rfl).bind ?_
    · rw [move?_operator_of_ne (hnone t ht)]
      rfl
    intro _ s₂ hfinished
    exact .pure hfinished

/-- The state that a parser is in. -/
def State.ofParser (parser : Parser) : State :=
  ⟨parser.ahead, parser.taken, parser.bounds.depth⟩

theorem State.ofParser_behind (bounds : Bounds) (outcome : Parse) :
    ofParser (.behind bounds outcome) =
      ⟨outcome.ahead, outcome.taken, bounds.depth + outcome.groups⟩ := rfl

/-- **A call of the parser comes to what the routine for whole sources comes to**: to the same
result, with the same tokens taken and ahead, and with the same number of groups counted. -/
theorem whole_eq (parser : Parser) (mode : Mode) :
    parser.bounds.setting.whole mode (.ofParser parser) =
      some ((parser.parse mode).1.mapError Stop.fault, .ofParser (parser.parse mode).2) := by
  have hstands : Stands parser.bounds
      (.ofAhead parser.bounds parser.taken (start mode) parser.ahead) (start mode) 0
      (.ofParser parser) := ⟨rfl, rfl⟩
  rw [Parser.parse]
  rcases whole_agrees hstands with ⟨tree, after, hwhole, houtcome, hdepth⟩ |
    ⟨fault, n, after, hwhole, houtcome, hdepth⟩
  · rw [hwhole, houtcome, State.ofParser_behind, ← hdepth]
    rfl
  · rw [hwhole, houtcome, State.ofParser_behind, ← hdepth]
    rfl

end Descent

end MiniPascal

/-
# Parsing at other places

The parser copies and joins the places of the tokens, and decides nothing by them.  So it makes the
same moves on moved tokens, and what it comes to is moved as they are.  Two sources whose items
agree once they are moved are parsed alike.  Main statements:

* `Config.move?_relocate` : a move commutes with moving the places;
* `Parse.ofAhead_relocate` : a run on moved items comes to a moved result;
* `parse_relocate` : sources with the same items, up to places, have the same result, up to places.
-/
import MiniPascal.Proofs.Parser.Run
import MiniPascal.Proofs.Places.Trees

namespace MiniPascal

/-! ## What is moved -/

section

variable (f : Nat → Nat)

/-- The token with its place moved. -/
def Token.relocate (t : Token) : Token := ⟨t.kind, t.text, t.span.relocate f⟩

/-- The fault with its place moved. -/
def Fault.relocate (fault : Fault) : Fault := ⟨fault.cause, fault.span.relocate f⟩

/-- The item with its place moved. -/
def Item.relocate : Item → Item
  | token t => token (t.relocate f)
  | fault fault' => fault (fault'.relocate f)

/-- The tree or the fault with its places moved. -/
def relocateResult : Except Fault Tree → Except Fault Tree
  | .ok tree => .ok (tree.relocate f)
  | .error fault => .error (fault.relocate f)

/-- The left operand with its places moved. -/
def Pending.relocate (p : Pending) : Pending := ⟨p.left.relocate f, p.op⟩

/-- What has been read in front of an operand, with its places moved. -/
def Level.relocate (level : Level) : Level :=
  ⟨level.sum.map (Pending.relocate f), level.product.map (Pending.relocate f),
    level.signs.map fun sign => (sign.1, sign.2.relocate f)⟩

/-- The block with its places moved. -/
def Block.relocate (block : Block) : Block :=
  ⟨block.opening.relocate f, block.done.map (Stmt.relocate f)⟩

/-- The open blocks with their places moved. -/
def Blocks.relocate (blocks : Blocks) : Blocks :=
  ⟨blocks.inner.relocate f, blocks.outer.map (Block.relocate f)⟩

/-- The goal with its places moved. -/
def Goal.relocate : Goal → Goal
  | whole => whole
  | assignment target blocks => assignment (target.relocate f) (blocks.relocate f)

/-- The configuration with all its places moved. -/
def Config.relocate : Config → Config
  | begin => begin
  | statement blocks => statement (blocks.relocate f)
  | target v blocks => target (v.relocate f) (blocks.relocate f)
  | operand goal level outer =>
    operand (goal.relocate f) (level.relocate f) (outer.map (Level.relocate f))
  | operator goal sum term outer =>
    operator (goal.relocate f) (sum.map (Pending.relocate f)) (term.relocate f)
      (outer.map (Level.relocate f))
  | separator blocks => separator (blocks.relocate f)
  | dot block => dot (block.relocate f)
  | finished block => finished (block.relocate f)

/-- The move with its places moved. -/
def Move.relocate : Move → Move
  | shift next => shift (next.relocate f)
  | enter next => enter (next.relocate f)

@[simp] theorem Token.kind_relocate (t : Token) : (t.relocate f).kind = t.kind := rfl

@[simp] theorem Fault.cause_relocate (fault : Fault) : (fault.relocate f).cause = fault.cause := rfl

variable {f} in
/-- Tokens that agree up to their places are of one kind. -/
theorem Token.kind_of_relocate {g : Nat → Nat} {t u : Token} (h : t.relocate f = u.relocate g) :
    t.kind = u.kind := by
  rw [← t.kind_relocate f, h, u.kind_relocate]

variable {f} in
/-- Faults that agree up to their places have one cause. -/
theorem Fault.cause_of_relocate {g : Nat → Nat} {fault other : Fault}
    (h : fault.relocate f = other.relocate g) : fault.cause = other.cause := by
  rw [← fault.cause_relocate f, h, other.cause_relocate]

@[simp] theorem Move.next_relocate (m : Move) : (m.relocate f).next = m.next.relocate f := by
  cases m <;> rfl

@[simp] theorem Config.relocate_start (mode : Mode) : (start mode).relocate f = start mode := by
  cases mode <;> rfl

/-! ## Open groups -/

namespace Config

theorem levelGroups_relocate (outer : List Level) :
    levelGroups (outer.map (Level.relocate f)) = levelGroups outer := by
  induction outer with
  | nil => rfl
  | cons level outer ih =>
    rw [List.map_cons, levelGroups, levelGroups, ih, Level.relocate, List.length_map]

theorem depth_relocate (blocks : Blocks) : (blocks.relocate f).depth = blocks.depth := by
  rw [Blocks.depth, Blocks.depth, Blocks.relocate, List.length_map]

theorem goalGroups_relocate (goal : Goal) : goalGroups (goal.relocate f) = goalGroups goal := by
  cases goal with
  | whole => rfl
  | assignment target blocks => exact depth_relocate f blocks

/-- As many groups are open at other places. -/
@[simp] theorem groups_relocate (c : Config) : (c.relocate f).groups = c.groups := by
  cases c with
  | begin => rfl
  | statement blocks => exact depth_relocate f blocks
  | target v blocks => exact depth_relocate f blocks
  | operand goal level outer =>
    rw [relocate, groups_operand, groups_operand, goalGroups_relocate, levelGroups_relocate,
      Level.relocate, List.length_map]
  | operator goal sum term outer =>
    rw [relocate, groups_operator, groups_operator, goalGroups_relocate, levelGroups_relocate]
  | separator blocks => exact depth_relocate f blocks
  | dot block => rfl
  | finished block => rfl

end Config

@[simp] theorem Bounds.exceededBy_relocate (bounds : Bounds) (m : Move) :
    bounds.exceededBy (m.relocate f) = bounds.exceededBy m := by
  cases m with
  | shift next => rfl
  | enter next => rw [Move.relocate, exceededBy, exceededBy, Config.groups_relocate]

/-- The complaint about what is found does not tell its place. -/
theorem Config.complaint_relocate (c : Config) (found : Option Token) :
    (c.relocate f).complaint (found.map (Token.relocate f)) = c.complaint found := by
  have hkind : (found.map (Token.relocate f)).map Token.kind = found.map Token.kind := by
    rw [Option.map_map]
    rfl
  cases c with
  | operand goal level outer =>
    rcases found with _ | ⟨kind, text, span⟩
    · rfl
    · cases kind <;> rfl
  | operator goal sum term outer =>
    rw [relocate]
    cases outer <;> cases goal <;> simp only [List.map_nil, List.map_cons, Goal.relocate, complaint,
      hkind]
  | _ => simp only [relocate, complaint, hkind]

end

/-! ## Moves -/

section

variable {f : Nat → Nat}

theorem Pending.relocate_close (hf : Monotone f) (pending : Option Pending) (right : Expr) :
    (close pending right).relocate f =
      close (pending.map (Pending.relocate f)) (right.relocate f) := by
  cases pending with
  | none => rfl
  | some p =>
    rw [close, Expr.relocate, Span.relocate_join hf, ← Expr.span_relocate, ← Expr.span_relocate]
    rfl

namespace Level

theorem relocate_signed (hf : Monotone f) (signs : List (Sign × Span)) (e : Expr) :
    (signed signs e).relocate f =
      signed (signs.map fun sign => (sign.1, sign.2.relocate f)) (e.relocate f) := by
  induction signs generalizing e with
  | nil => rfl
  | cons sign signs ih =>
    change (signed signs (.unary sign.1 e (sign.2.join e.span))).relocate f = _
    rw [ih, Expr.relocate, Span.relocate_join hf, ← Expr.span_relocate]
    rfl

theorem relocate_term (hf : Monotone f) (level : Level) (e : Expr) :
    (level.term e).relocate f = (level.relocate f).term (e.relocate f) := by
  rw [term, Pending.relocate_close hf, relocate_signed hf]
  rfl

end Level

namespace Config

theorem relocate_closed (hf : Monotone f) (blocks : Blocks) (ending : Span) :
    (blocks.closed ending).relocate f = (blocks.relocate f).closed (ending.relocate f) := by
  rw [Blocks.closed, Stmt.relocate, Stmt.relocateList_eq_map, Span.relocate_join hf,
    List.map_reverse]
  rfl

theorem relocate_endBlock (hf : Monotone f) (blocks : Blocks) (ending : Span) :
    (endBlock blocks ending).relocate f = endBlock (blocks.relocate f) (ending.relocate f) := by
  have hclosed := relocate_closed hf blocks ending
  obtain ⟨inner, outer⟩ := blocks
  cases outer with
  | nil => exact congrArg dot hclosed
  | cons block outer =>
    exact congrArg (fun s => separator (Blocks.add (Blocks.relocate f ⟨block, outer⟩) s)) hclosed

theorem afterStatement?_relocate (hf : Monotone f) (blocks : Blocks) (t : Token) :
    afterStatement? (blocks.relocate f) (t.relocate f) =
      (afterStatement? blocks t).map (Move.relocate f) := by
  unfold afterStatement?
  rw [Token.kind_relocate]
  split
  · rfl
  · rw [Option.map_some, Move.relocate, relocate_endBlock hf]
    rfl
  · rfl

theorem statement?_relocate (hf : Monotone f) (blocks : Blocks) (t : Token) :
    statement? (blocks.relocate f) (t.relocate f) =
      (statement? blocks t).map (Move.relocate f) := by
  unfold statement?
  rw [Token.kind_relocate]
  split
  · rfl
  · rfl
  · exact afterStatement?_relocate hf (blocks.add (.empty (.emptyAt t.span.start))) t

theorem operand?_relocate (hf : Monotone f) (goal : Goal) (level : Level) (outer : List Level)
    (t : Token) :
    operand? (goal.relocate f) (level.relocate f) (outer.map (Level.relocate f)) (t.relocate f) =
      (operand? goal level outer t).map (Move.relocate f) := by
  unfold operand?
  rw [Token.kind_relocate]
  split
  · rfl
  · rfl
  · rfl
  · rw [Option.map_some, Move.relocate, relocate, Level.relocate_term hf]
    rfl
  · rw [Option.map_some, Move.relocate, relocate, Level.relocate_term hf]
    rfl
  · rfl

theorem afterExpression?_relocate (hf : Monotone f) (goal : Goal) (e : Expr) (outer : List Level)
    (t : Token) :
    afterExpression? (goal.relocate f) (e.relocate f) (outer.map (Level.relocate f))
        (t.relocate f) =
      (afterExpression? goal e outer t).map (Move.relocate f) := by
  have hkind : (t.relocate f).kind = t.kind := rfl
  cases outer with
  | cons level outer =>
    simp only [List.map_cons, afterExpression?, hkind]
    split
    · rw [Option.map_some, Move.relocate, relocate, Level.relocate_term hf]
      rfl
    · rfl
  | nil =>
    cases goal with
    | whole => rfl
    | assignment v blocks =>
      have hadded : (blocks.add (.assignment v e (v.span.join e.span))).relocate f =
          (blocks.relocate f).add (.assignment (v.relocate f) (e.relocate f)
            ((v.relocate f).span.join (e.relocate f).span)) := by
        rw [Expr.span_relocate]
        change _ = Blocks.add _ (.assignment _ _ ((v.span.relocate f).join _))
        rw [← Span.relocate_join hf]
        rfl
      change afterStatement? (Blocks.add _ _) _ = _
      rw [← hadded, afterStatement?_relocate hf]
      rfl

theorem operator?_relocate (hf : Monotone f) (goal : Goal) (sum : Option Pending) (term : Expr)
    (outer : List Level) (t : Token) :
    operator? (goal.relocate f) (sum.map (Pending.relocate f)) (term.relocate f)
        (outer.map (Level.relocate f)) (t.relocate f) =
      (operator? goal sum term outer t).map (Move.relocate f) := by
  unfold operator?
  rw [Token.kind_relocate, ← Pending.relocate_close hf]
  split
  · rfl
  · rfl
  · rfl
  · rfl
  · exact afterExpression?_relocate hf goal _ outer t

/-- **A move commutes with moving the places.** -/
theorem move?_relocate (hf : Monotone f) (c : Config) (t : Token) :
    (c.relocate f).move? (t.relocate f) = (c.move? t).map (Move.relocate f) := by
  have hkind : (t.relocate f).kind = t.kind := rfl
  cases c with
  | begin =>
    simp only [relocate, move?, hkind]
    split <;> rfl
  | statement blocks => exact statement?_relocate hf blocks t
  | target v blocks =>
    simp only [relocate, move?, hkind]
    split <;> rfl
  | operand goal level outer => exact operand?_relocate hf goal level outer t
  | operator goal sum term outer => exact operator?_relocate hf goal sum term outer t
  | separator blocks => exact afterStatement?_relocate hf blocks t
  | dot block =>
    simp only [relocate, move?, hkind]
    split <;> rfl
  | finished block => rfl

theorem tree?_relocate (hf : Monotone f) (c : Config) :
    (c.relocate f).tree? = c.tree?.map (Tree.relocate f) := by
  cases c with
  | operator goal sum term outer =>
    cases goal with
    | whole =>
      cases outer with
      | nil =>
        change some (Tree.expr _) = some (Tree.expr _)
        rw [Pending.relocate_close hf]
      | cons level outer => rfl
    | assignment v blocks => rfl
  | _ => rfl

end Config

end

/-! ## Runs -/

/-- The two readings have the same room for groups, and their sources end at the same place once
their offsets are moved. -/
structure Bounds.Corresponds (f g : Nat → Nat) (bounds bounds' : Bounds) : Prop where
  /-- The limits are the same. -/
  limit : bounds.limit = bounds'.limit
  /-- As many groups were open before. -/
  depth : bounds.depth = bounds'.depth
  /-- The ends are at the same place. -/
  stop : (Span.single bounds.stop).relocate f = (Span.single bounds'.stop).relocate g

section

variable {f g : Nat → Nat} {bounds bounds' : Bounds} {c c' : Config} {taken taken' : List Token}

theorem Bounds.Corresponds.exceededBy (h : Corresponds f g bounds bounds') {m m' : Move}
    (hm : m.relocate f = m'.relocate g) : bounds.exceededBy m = bounds'.exceededBy m' := by
  rw [← exceededBy_relocate f, hm, exceededBy_relocate]
  cases m' with
  | shift next => rfl
  | enter next => rw [Bounds.exceededBy, Bounds.exceededBy, h.limit, h.depth]

theorem Config.complaint_of_relocate (hc : c.relocate f = c'.relocate g)
    {found found' : Option Token}
    (hfound : found.map (Token.relocate f) = found'.map (Token.relocate g)) :
    c.complaint found = c'.complaint found' := by
  rw [← complaint_relocate f, hc, hfound, complaint_relocate]

theorem Parse.atEnd_relocate (hf : Monotone f) (hg : Monotone g)
    (h : bounds.Corresponds f g bounds') (hc : c.relocate f = c'.relocate g) :
    relocateResult f (atEnd bounds taken c).result =
      relocateResult g (atEnd bounds' taken' c').result := by
  have htree : c.tree?.map (Tree.relocate f) = c'.tree?.map (Tree.relocate g) := by
    rw [← Config.tree?_relocate hf, hc, Config.tree?_relocate hg]
  have hcomplaint : c.complaint none = c'.complaint none := Config.complaint_of_relocate hc rfl
  rw [atEnd, atEnd]
  rcases htree' : c.tree? with _ | tree <;> rcases htree'' : c'.tree? with _ | tree' <;>
    rw [htree', htree''] at htree
  · simp only [relocateResult, Fault.relocate, hcomplaint, h.stop]
  · cases htree
  · cases htree
  · simp only [relocateResult, Option.some.inj htree]

theorem Parse.refused_relocate (hc : c.relocate f = c'.relocate g) {t t' : Token}
    (ht : t.relocate f = t'.relocate g) (rest rest' : List Item) :
    relocateResult f (refused taken c t rest).result =
      relocateResult g (refused taken' c' t' rest').result := by
  have hspan : t.span.relocate f = t'.span.relocate g := congrArg Token.span ht
  have hcomplaint : c.complaint (some t) = c'.complaint (some t') :=
    Config.complaint_of_relocate hc (congrArg some ht)
  simp only [refused, relocateResult, Fault.relocate, hcomplaint, hspan]

theorem Parse.tooDeep_relocate (h : bounds.Corresponds f g bounds') {t t' : Token}
    (ht : t.relocate f = t'.relocate g) (a a' : Ahead) :
    relocateResult f (tooDeep bounds taken c t a).result =
      relocateResult g (tooDeep bounds' taken' c' t' a').result := by
  have hspan : t.span.relocate f = t'.span.relocate g := congrArg Token.span ht
  simp only [tooDeep, relocateResult, Fault.relocate, h.limit, hspan]

/-- **A run on moved items comes to a moved result.** -/
theorem Parse.ofAhead_relocate (hf : Monotone f) (hg : Monotone g)
    (h : bounds.Corresponds f g bounds') (hc : c.relocate f = c'.relocate g) {a a' : Ahead}
    (ha : a.items.map (Item.relocate f) = a'.items.map (Item.relocate g)) :
    relocateResult f (ofAhead bounds taken c a).result =
      relocateResult g (ofAhead bounds' taken' c' a').result := by
  induction hn : a.items.length using Nat.strongRecOn generalizing c c' taken taken' a a' with
  | ind n ih =>
    cases a with
    | finish =>
      cases a' with
      | finish => exact atEnd_relocate hf hg h hc
      | token t' rest' => cases ha
    | token t rest =>
      cases a' with
      | finish => cases ha
      | token t' rest' =>
        obtain ⟨hitem, hrest⟩ := List.cons.inj ha
        have ht : t.relocate f = t'.relocate g := Item.token.inj hitem
        have hmove : (c.move? t).map (Move.relocate f) = (c'.move? t').map (Move.relocate g) := by
          rw [← Config.move?_relocate hf, hc, ht, Config.move?_relocate hg]
        rw [ofAhead, ofAhead]
        rcases hm : c.move? t with _ | m <;> rcases hm' : c'.move? t' with _ | m' <;>
          rw [hm, hm'] at hmove
        · rw [run_of_refused hm, run_of_refused hm']
          exact refused_relocate hc ht _ _
        · cases hmove
        · cases hmove
        · replace hmove : m.relocate f = m'.relocate g := Option.some.inj hmove
          have hnext : m.next.relocate f = m'.next.relocate g := by
            rw [← Move.next_relocate, hmove, Move.next_relocate]
          -- What is behind the token is alike in both: nothing, a token, or a fault.
          rcases Ahead.items_cases rest with ⟨b, rfl⟩ | ⟨fault, tail, rfl⟩ <;>
            rcases Ahead.items_cases rest' with ⟨b', rfl⟩ | ⟨fault', tail', rfl⟩
          · rw [run_of_move hm, run_of_move hm', h.exceededBy hmove]
            split
            · exact tooDeep_relocate h ht _ _
            · exact ih _ (hn ▸ Nat.lt_succ_self _) hnext hrest rfl
          · cases b <;> cases hrest
          · cases b' <;> cases hrest
          · rw [run_of_fault hm, run_of_fault hm']
            obtain ⟨hfault, -⟩ := List.cons.inj hrest
            exact congrArg Except.error (Item.fault.inj hfault)

/-- **Sources with the same items, up to places, are parsed to the same result, up to places.** -/
theorem parse_relocate {source other : String} (hf : Monotone f) (hg : Monotone g)
    (hstop : (Span.single source.length).relocate f = (Span.single other.length).relocate g)
    (hitems : (Cursor.ofSource source).items.map (Item.relocate f) =
      (Cursor.ofSource other).items.map (Item.relocate g)) (mode : Mode) (limit : Nat) :
    relocateResult f (parse source mode limit) = relocateResult g (parse other mode limit) := by
  rcases Ahead.items_cases (Cursor.ofSource source).items with ⟨a, ha⟩ | ⟨fault, rest, hfault⟩ <;>
    rcases Ahead.items_cases (Cursor.ofSource other).items with ⟨b, hb⟩ | ⟨fault', rest', hfault'⟩
  · rw [parse_of_items ha.symm, parse_of_items hb.symm]
    have hbounds : (Bounds.first source limit).Corresponds f g (.first other limit) :=
      ⟨rfl, rfl, hstop⟩
    refine Parse.ofAhead_relocate hf hg hbounds ?_ ?_
    · rw [Config.relocate_start, Config.relocate_start]
    · rw [ha, hb, hitems]
  · rw [← ha, hfault'] at hitems
    cases a <;> cases hitems
  · rw [← hb, hfault] at hitems
    cases b <;> cases hitems
  · rw [parse_of_fault hfault, parse_of_fault hfault']
    rw [hfault, hfault'] at hitems
    obtain ⟨hitem, -⟩ := List.cons.inj hitems
    exact congrArg Except.error (Item.fault.inj hitem)

/-- Results that agree up to places are both trees, if one is. -/
theorem relocateResult_ok {result other : Except Fault Tree}
    (h : relocateResult f result = relocateResult g other) {tree : Tree}
    (hresult : result = .ok tree) :
    ∃ tree', other = .ok tree' ∧ tree'.relocate g = tree.relocate f := by
  subst hresult
  cases other with
  | error fault => cases h
  | ok tree' => exact ⟨tree', rfl, (Except.ok.inj h).symm⟩

/-- Results that agree up to places are both faults of one cause, if one is a fault. -/
theorem relocateResult_error {result other : Except Fault Tree}
    (h : relocateResult f result = relocateResult g other) {fault : Fault}
    (hresult : result = .error fault) :
    ∃ fault', other = .error fault' ∧ fault'.relocate g = fault.relocate f := by
  subst hresult
  cases other with
  | ok tree => cases h
  | error fault' => exact ⟨fault', rfl, (Except.error.inj h).symm⟩

end

end MiniPascal

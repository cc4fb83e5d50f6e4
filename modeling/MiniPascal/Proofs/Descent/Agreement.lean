/-
# The routines for expressions and the parser

The routines come to what the parser comes to.  While a routine runs, the parser passes through
configurations that know what the routines have still to do; the routine for a rule leads from the
configuration in front of the rule's phrase to one behind it, with the tree of the phrase, or it
stops with the outcome of the parser.  Each routine calls itself again, directly or through others,
only on fewer items, so all of them end.  Main statements:

* `advance_agrees`, `enter_agrees`, `leave_agrees`, `consume_agrees` : the single steps;
* `factor_agrees`, `expression_agrees` : the routines for expressions, on any items.
-/
import MiniPascal.Proofs.Descent.Routines

namespace MiniPascal

open Config

namespace Descent

variable {α β : Type} {bounds : Bounds} {outcome : Parse} {s after : State}

/-! ## Routines one after another -/

theorem bind_apply (r : Routine α) (f : α → Routine β) (s : State) :
    (r >>= f) s = match r s with
      | none => none
      | some (.ok a, after) => f a after
      | some (.error stop, after) => some (.error stop, after) := by
  show (r s).bind (fun result => ExceptT.bindCont f result.1 result.2) = _
  rcases r s with _ | ⟨_ | a, after⟩ <;> rfl

/-- The routine comes to a value and a state with the property, or it stops at the fault of the
outcome, in the state that the outcome tells of. -/
def Agrees (bounds : Bounds) (outcome : Parse) (r : Routine α) (s : State)
    (Q : α → State → Prop) : Prop :=
  (∃ a after, r s = some (.ok a, after) ∧ Q a after) ∨
    ∃ fault n after, r s = some (.error (.fault fault), after) ∧
      outcome = ⟨.error fault, n, after.ahead, after.taken⟩ ∧ after.depth = bounds.depth + n

theorem Agrees.pure {Q : α → State → Prop} {a : α} (h : Q a s) :
    Agrees bounds outcome (pure a) s Q :=
  Or.inl ⟨a, s, rfl, h⟩

/-- A routine behind another one goes on from where the first one has come to. -/
theorem Agrees.bind {r : Routine α} {f : α → Routine β} {Q : α → State → Prop}
    {R : β → State → Prop} (h : Agrees bounds outcome r s Q)
    (hf : ∀ a after, Q a after → Agrees bounds outcome (f a) after R) :
    Agrees bounds outcome (r >>= f) s R := by
  unfold Agrees
  rw [bind_apply]
  rcases h with ⟨a, after, hr, hQ⟩ | ⟨fault, n, after, hr, hfault⟩
  · rw [hr]
    exact hf a after hQ
  · rw [hr]
    exact Or.inr ⟨fault, n, after, rfl, hfault⟩

theorem Agrees.mono {r : Routine α} {Q R : α → State → Prop} (h : Agrees bounds outcome r s Q)
    (hQ : ∀ a after, Q a after → R a after) : Agrees bounds outcome r s R := by
  rcases h with ⟨a, after, hr, ha⟩ | hfault
  · exact Or.inl ⟨a, after, hr, hQ a after ha⟩
  · exact Or.inr hfault

/-- Looking at what is in view changes nothing. -/
theorem Agrees.inView {f : Option Token → Routine α} {Q : α → State → Prop}
    (h : Agrees bounds outcome (f s.ahead.current?) s Q) :
    Agrees bounds outcome (Descent.inView >>= f) s Q := h

/-! ## Where the parser stands -/

/-- The number of items ahead. -/
def State.size (s : State) : Nat := s.ahead.items.length

/-- From the configuration the parser comes to the outcome, and `n` groups have been counted. -/
structure Stands (bounds : Bounds) (outcome : Parse) (c : Config) (n : Nat) (s : State) : Prop where
  /-- What the parser comes to. -/
  outcome_eq : Parse.ofAhead bounds s.taken c s.ahead = outcome
  /-- The counter shows the groups from before and `n` more. -/
  depth_eq : s.depth = bounds.depth + n

/-- The configuration refuses what is found. -/
def Refuses (c : Config) : Option Token → Prop
  | some t => c.move? t = none
  | none => c.tree? = none

/-- The token has been taken on the way from one state to the next one, and the move that it leads
to is about to be made. -/
structure Took (bounds : Bounds) (outcome : Parse) (c : Config) (t : Token) (m : Move)
    (s after : State) : Prop where
  /-- What the parser comes to. -/
  outcome_eq :
    (if bounds.exceededBy m then Parse.tooDeep bounds s.taken m.next t after.ahead
      else Parse.ofAhead bounds (t :: s.taken) m.next after.ahead) = outcome
  /-- The token is the latest one that has been taken. -/
  taken_eq : after.taken = t :: s.taken
  /-- The groups are counted as before. -/
  depth_eq : after.depth = bounds.depth + c.groups
  /-- There is an item less ahead. -/
  size_lt : after.size < s.size

variable {c : Config} {t : Token} {m : Move} {n : Nat}

/-! ## Single steps -/

theorem advance_of_items {a : Ahead} (h : s.ahead = .token t a.items) :
    advance s = some (.ok t, ⟨a, t :: s.taken, s.depth⟩) := by
  unfold advance
  rw [h]
  cases a <;> rfl

theorem advance_of_fault {fault : Fault} {rest : List Item}
    (h : s.ahead = .token t (.fault fault :: rest)) :
    advance s = some (.error (.fault fault), ⟨.token t rest, s.taken, s.depth⟩) := by
  unfold advance
  rw [h]

theorem ahead_of_current? (h : s.ahead.current? = some t) : ∃ rest, s.ahead = .token t rest := by
  cases hahead : s.ahead with
  | finish =>
    rw [hahead] at h
    cases h
  | token u rest =>
    rw [hahead] at h
    obtain rfl := Option.some.inj h
    exact ⟨rest, rfl⟩

/-- The token in view is taken, unless there is a lexical fault behind it. -/
theorem advance_agrees (h : Stands bounds outcome c c.groups s) (ht : s.ahead.current? = some t)
    (hmove : c.move? t = some m) :
    Agrees bounds outcome advance s fun u after => u = t ∧ Took bounds outcome c t m s after := by
  obtain ⟨hout, hdepth⟩ := h
  obtain ⟨rest, hahead⟩ := ahead_of_current? ht
  rw [hahead, Parse.ofAhead] at hout
  rcases Ahead.items_cases rest with ⟨a, rfl⟩ | ⟨fault, rest, rfl⟩
  · rw [Parse.run_of_move hmove] at hout
    have hsize : State.size ⟨a, t :: s.taken, s.depth⟩ < s.size := by
      unfold State.size
      rw [hahead]
      exact Nat.lt_succ_self _
    exact Or.inl ⟨t, _, advance_of_items hahead, rfl, hout, rfl, hdepth, hsize⟩
  · rw [Parse.run_of_fault hmove] at hout
    exact Or.inr ⟨fault, c.groups, _, advance_of_fault hahead, hout.symm, hdepth⟩

/-- Behind a token that opens no group the parser stands where the token leads. -/
theorem Took.stands {next : Config} (h : Took bounds outcome c t (.shift next) s after) :
    Stands bounds outcome next c.groups after :=
  ⟨by rw [h.taken_eq]; exact h.outcome_eq, h.depth_eq⟩

/-- A group is counted behind the token that opens it, unless it is one too many. -/
theorem enter_agrees {next : Config} (h : Took bounds outcome c t (.enter next) s after)
    (hmove : c.move? t = some (.enter next)) :
    Agrees bounds outcome (enter bounds.limit t.span) after fun _ last =>
      Stands bounds outcome next next.groups last ∧ last.size < s.size := by
  have hgroups : next.groups = c.groups + 1 := counted_of_move? hmove
  have hdepth : after.depth + 1 = bounds.depth + next.groups := by
    have := h.depth_eq
    omega
  have hexceeded : bounds.exceededBy (.enter next) = decide (bounds.limit < after.depth + 1) := by
    rw [hdepth]
    rfl
  have hout := h.outcome_eq
  rw [hexceeded, Move.next] at hout
  unfold enter
  by_cases hdeep : bounds.limit < after.depth + 1
  · rw [if_pos (decide_eq_true hdeep), Parse.tooDeep, ← h.taken_eq] at hout
    exact Or.inr ⟨_, next.groups, _, if_pos hdeep, hout.symm, hdepth⟩
  · rw [if_neg (by simpa using hdeep), ← h.taken_eq] at hout
    exact Or.inl ⟨(), _, if_neg hdeep, ⟨hout, hdepth⟩, h.size_lt⟩

/-- A group that has been counted is counted off. -/
theorem leave_agrees (h : Stands bounds outcome c (n + 1) s) :
    Agrees bounds outcome leave s fun _ after =>
      Stands bounds outcome c n after ∧ after.size = s.size := by
  obtain ⟨hout, hdepth⟩ := h
  have hleave : leave s = some (.ok (), ⟨s.ahead, s.taken, bounds.depth + n⟩) := by
    unfold leave
    rw [hdepth]
    rfl
  exact Or.inl ⟨(), _, hleave, ⟨hout, rfl⟩, rfl⟩

/-- Where the parser refuses what is in view, the routines stop for the same cause. -/
theorem fail_agrees {cause : Option Token → Cause} {Q : α → State → Prop}
    (h : Stands bounds outcome c c.groups s) (hrefuses : Refuses c s.ahead.current?)
    (hcause : c.complaint s.ahead.current? = cause s.ahead.current?) :
    Agrees bounds outcome (fail bounds.stop cause) s Q := by
  obtain ⟨hout, hdepth⟩ := h
  refine Or.inr ⟨⟨cause s.ahead.current?, s.place bounds.stop⟩, c.groups, s, rfl, ?_, hdepth⟩
  rw [← hout, ← hcause]
  unfold State.place
  cases hahead : s.ahead with
  | finish =>
    have hend : c.tree? = none := by
      rw [hahead] at hrefuses
      exact hrefuses
    rw [Parse.ofAhead, Parse.atEnd, hend]
    rfl
  | token t rest =>
    have hmove : c.move? t = none := by
      rw [hahead] at hrefuses
      exact hrefuses
    rw [Parse.ofAhead, Parse.run_of_refused hmove]
    rfl

/-- Where nothing but a token of the kind leads on, such a token is taken, and anything else is
refused. -/
theorem consume_agrees {kind : Kind} {expected : Expected} {move : Token → Move}
    (h : Stands bounds outcome c c.groups s)
    (hmove : ∀ t, s.ahead.current? = some t → ∀ m, c.move? t = some m ↔ t.kind = kind ∧ m = move t)
    (hend : c.tree? = none)
    (hcomplaint : s.ahead.current?.map Token.kind ≠ some kind →
      c.complaint s.ahead.current? = mismatch expected s.ahead.current?) :
    Agrees bounds outcome (consume bounds.stop kind expected) s fun t after =>
      c.move? t = some (move t) ∧ Took bounds outcome c t (move t) s after := by
  unfold consume
  refine Agrees.inView ?_
  by_cases hkind : s.ahead.current?.map Token.kind = some kind
  · rw [if_pos hkind]
    obtain ⟨t, ht, htkind⟩ := Option.map_eq_some_iff.1 hkind
    have hmove := (hmove t ht (move t)).2 ⟨htkind, rfl⟩
    rcases advance_agrees h ht hmove with ⟨u, after, hadvance, rfl, htook⟩ | hfault
    · exact Or.inl ⟨u, after, hadvance, hmove, htook⟩
    · exact Or.inr hfault
  · rw [if_neg hkind]
    refine fail_agrees h ?_ (hcomplaint hkind)
    cases hview : s.ahead.current? with
    | none => exact hend
    | some t =>
      rw [hview, Option.map_some] at hkind
      refine Option.eq_none_iff_forall_ne_some.2 fun m hm => hkind ?_
      rw [((hmove t hview m).1 hm).1]

/-! ## Operators -/

theorem additive?_eq_some {found : Option Token} {op : Operator} (h : additive? found = some op) :
    ∃ t, found = some t ∧ t.kind = op.kind ∧ op.isMultiplicative = false := by
  unfold additive? at h
  split at h
  · next hkind =>
    obtain ⟨t, rfl, ht⟩ := Option.map_eq_some_iff.1 hkind
    cases h
    exact ⟨t, rfl, ht, rfl⟩
  · next hkind =>
    obtain ⟨t, rfl, ht⟩ := Option.map_eq_some_iff.1 hkind
    cases h
    exact ⟨t, rfl, ht, rfl⟩
  · cases h

theorem multiplicative?_eq_some {found : Option Token} {op : Operator}
    (h : multiplicative? found = some op) :
    ∃ t, found = some t ∧ t.kind = op.kind ∧ op.isMultiplicative = true := by
  unfold multiplicative? at h
  split at h
  · next hkind =>
    obtain ⟨t, rfl, ht⟩ := Option.map_eq_some_iff.1 hkind
    cases h
    exact ⟨t, rfl, ht, rfl⟩
  · next hkind =>
    obtain ⟨t, rfl, ht⟩ := Option.map_eq_some_iff.1 hkind
    cases h
    exact ⟨t, rfl, ht, rfl⟩
  · cases h

/-- What is no operator of either sort is none at all. -/
theorem kind_ne_of_none (hadditive : additive? (some t) = none)
    (hmultiplicative : multiplicative? (some t) = none) (op : Operator) : t.kind ≠ op.kind := by
  intro hkind
  unfold additive? at hadditive
  unfold multiplicative? at hmultiplicative
  rw [Option.map_some, hkind] at hadditive hmultiplicative
  cases op
  · cases hadditive
  · cases hadditive
  · cases hmultiplicative
  · cases hmultiplicative

/-! ## Expressions -/

/-- What the routine for factors does in the state. -/
def FactorAgrees (bounds : Bounds) (outcome : Parse) (s : State) : Prop :=
  ∀ goal level outer,
    Stands bounds outcome (operand goal level outer) (operand goal level outer).groups s →
    Agrees bounds outcome bounds.setting.factor s fun e after =>
      Stands bounds outcome (operator goal level.sum (level.term e) outer)
        (operand goal level outer).groups after ∧ after.size < s.size

/-- What the routine for further factors does in the state. -/
def FactorsAgree (bounds : Bounds) (outcome : Parse) (s : State) : Prop :=
  ∀ goal sum left outer,
    Stands bounds outcome (operator goal sum left outer) (operator goal sum left outer).groups s →
    Agrees bounds outcome (bounds.setting.factors left) s fun e after =>
      Stands bounds outcome (operator goal sum e outer) (operator goal sum e outer).groups after ∧
        after.size ≤ s.size ∧ multiplicative? after.ahead.current? = none

/-- What the routine for terms does in the state. -/
def TermAgrees (bounds : Bounds) (outcome : Parse) (s : State) : Prop :=
  ∀ goal sum outer,
    Stands bounds outcome (operand goal ⟨sum, none, []⟩ outer)
      (operand goal ⟨sum, none, []⟩ outer).groups s →
    Agrees bounds outcome bounds.setting.term s fun e after =>
      Stands bounds outcome (operator goal sum e outer) (operator goal sum e outer).groups after ∧
        after.size < s.size ∧ multiplicative? after.ahead.current? = none

/-- The parser has read the expression as far as it goes, and what is in view is no operator. -/
def Complete (bounds : Bounds) (outcome : Parse) (goal : Goal) (outer : List Level) (e : Expr)
    (s : State) : Prop :=
  ∃ sum last, Pending.close sum last = e ∧
    Stands bounds outcome (operator goal sum last outer) (operator goal sum last outer).groups s ∧
    ∀ t, s.ahead.current? = some t → ∀ op : Operator, t.kind ≠ op.kind

/-- What the routine for expressions does in the state. -/
def ExpressionAgrees (bounds : Bounds) (outcome : Parse) (s : State) : Prop :=
  ∀ goal outer,
    Stands bounds outcome (operand goal .start outer) (operand goal .start outer).groups s →
    Agrees bounds outcome bounds.setting.expression s fun e after =>
      Complete bounds outcome goal outer e after ∧ after.size < s.size

/-- An operator leads on to its right operand. -/
theorem move?_operator {op : Operator} (h : t.kind = op.kind) (goal : Goal) (sum : Option Pending)
    (left : Expr) (outer : List Level) :
    (operator goal sum left outer).move? t =
      some (.shift (operand goal (.behind op sum left) outer)) :=
  operator?_eq_some_iff.2 (Or.inl ⟨op, h, rfl⟩)

theorem factors_agree_of (bound : Nat)
    (hfactor : ∀ s, s.size < bound → FactorAgrees bounds outcome s) :
    ∀ s, s.size ≤ bound → FactorsAgree bounds outcome s := by
  intro s
  -- Each operator and each factor behind it leave fewer items.
  induction hn : s.size using Nat.strongRecOn generalizing s with
  | ind n ih =>
    intro hbound goal sum left outer hstands
    rw [Setting.factors]
    refine Agrees.inView ?_
    cases hop : multiplicative? s.ahead.current? with
    | none => exact .pure ⟨hstands, Nat.le_refl _, hop⟩
    | some op =>
      obtain ⟨t, ht, hkind, hmultiplicative⟩ := multiplicative?_eq_some hop
      refine (advance_agrees hstands ht (move?_operator hkind goal sum left outer)).bind ?_
      rintro u s₁ ⟨rfl, htook⟩
      have hsize₁ := htook.size_lt
      have hstands₁ := htook.stands
      rw [Level.behind_multiplicative hmultiplicative] at hstands₁
      refine (hfactor s₁ (by omega) goal _ outer hstands₁).bind ?_
      rintro right s₂ ⟨hstands₂, hsize₂⟩
      have hrest := ih s₂.size (by omega) s₂ rfl (by omega) goal sum (.combine op left right) outer
        hstands₂
      refine hrest.mono ?_
      rintro e s₃ ⟨hstands₃, hsize₃, hnone⟩
      exact ⟨hstands₃, by omega, hnone⟩

theorem term_agrees_of (hfactor : ∀ s', s'.size ≤ s.size → FactorAgrees bounds outcome s') :
    TermAgrees bounds outcome s := by
  intro goal sum outer hstands
  rw [Setting.term]
  refine (hfactor s (Nat.le_refl _) goal _ outer hstands).bind ?_
  rintro first s₁ ⟨hstands₁, hsize₁⟩
  have hfactors := factors_agree_of s.size (fun s' hs' => hfactor s' (Nat.le_of_lt hs')) s₁
    (Nat.le_of_lt hsize₁) goal sum first outer hstands₁
  refine hfactors.mono ?_
  rintro e s₂ ⟨hstands₂, hsize₂, hnone⟩
  exact ⟨hstands₂, by omega, hnone⟩

/-- What the routine for further terms does in the state. -/
theorem terms_agree_of (bound : Nat) (hterm : ∀ s, s.size < bound → TermAgrees bounds outcome s) :
    ∀ s, s.size ≤ bound → multiplicative? s.ahead.current? = none → ∀ goal sum last outer,
      Stands bounds outcome (operator goal sum last outer) (operator goal sum last outer).groups s →
      Agrees bounds outcome (bounds.setting.terms (Pending.close sum last)) s
        fun e after => Complete bounds outcome goal outer e after ∧ after.size ≤ s.size := by
  intro s
  induction hn : s.size using Nat.strongRecOn generalizing s with
  | ind n ih =>
    intro hbound hmultiplicative goal sum last outer hstands
    rw [Setting.terms]
    refine Agrees.inView ?_
    cases hop : additive? s.ahead.current? with
    | none =>
      refine .pure ⟨⟨sum, last, rfl, hstands, ?_⟩, Nat.le_of_eq hn⟩
      intro t ht
      rw [ht] at hop hmultiplicative
      exact kind_ne_of_none hop hmultiplicative
    | some op =>
      obtain ⟨t, ht, hkind, hadditive⟩ := additive?_eq_some hop
      refine (advance_agrees hstands ht (move?_operator hkind goal sum last outer)).bind ?_
      rintro u s₁ ⟨rfl, htook⟩
      have hsize₁ := htook.size_lt
      have hstands₁ := htook.stands
      rw [Level.behind_additive hadditive] at hstands₁
      refine (hterm s₁ (by omega) goal _ outer hstands₁).bind ?_
      rintro right s₂ ⟨hstands₂, hsize₂, hnone₂⟩
      have hrest := ih s₂.size (by omega) s₂ rfl (by omega) hnone₂ goal
        (some ⟨Pending.close sum last, op⟩) right outer hstands₂
      refine hrest.mono ?_
      rintro e s₃ ⟨hcomplete, hsize₃⟩
      exact ⟨hcomplete, by omega⟩

theorem expression_agrees_of (hfactor : ∀ s', s'.size ≤ s.size → FactorAgrees bounds outcome s') :
    ExpressionAgrees bounds outcome s := by
  intro goal outer hstands
  have hterm : ∀ s', s'.size ≤ s.size → TermAgrees bounds outcome s' :=
    fun s' hs' => term_agrees_of fun s'' hs'' => hfactor s'' (Nat.le_trans hs'' hs')
  rw [Setting.expression]
  refine (hterm s (Nat.le_refl _) goal none outer hstands).bind ?_
  rintro first s₁ ⟨hstands₁, hsize₁, hnone₁⟩
  have hterms := terms_agree_of s.size (fun s' hs' => hterm s' (Nat.le_of_lt hs')) s₁
    (Nat.le_of_lt hsize₁) hnone₁ goal none first outer hstands₁
  refine hterms.mono ?_
  rintro e s₂ ⟨hcomplete, hsize₂⟩
  exact ⟨hcomplete, by omega⟩

section

variable {goal : Goal} {level : Level} {outer : List Level}

theorem signed_agrees_of (hfactor : ∀ s', s'.size < s.size → FactorAgrees bounds outcome s')
    {sign : Sign}
    (h : Stands bounds outcome (operand goal level outer) (operand goal level outer).groups s)
    (ht : s.ahead.current? = some t) (hkind : t.kind = sign.kind) :
    Agrees bounds outcome (bounds.setting.signed sign) s fun e after =>
      Stands bounds outcome (operator goal level.sum (level.term e) outer)
        (operand goal level outer).groups after ∧ after.size < s.size := by
  have hmove : (operand goal level outer).move? t =
      some (.enter (operand goal (level.sign sign t.span) outer)) :=
    operand?_eq_some_iff.2 (Or.inl ⟨sign, hkind, rfl⟩)
  have hgroups : (operand goal (level.sign sign t.span) outer).groups =
      (operand goal level outer).groups + 1 := counted_of_move? hmove
  rw [Setting.signed]
  refine (advance_agrees h ht hmove).bind ?_
  rintro u s₁ ⟨rfl, htook⟩
  refine (enter_agrees htook hmove).bind ?_
  rintro - s₂ ⟨hstands₂, hsize₂⟩
  refine (hfactor s₂ hsize₂ goal _ outer hstands₂).bind ?_
  rintro operand s₃ ⟨hstands₃, hsize₃⟩
  rw [hgroups] at hstands₃
  refine (leave_agrees hstands₃).bind ?_
  rintro - s₄ ⟨hstands₄, hsize₄⟩
  exact .pure ⟨hstands₄, by omega⟩

theorem group_agrees_of (hexpression : ∀ s', s'.size < s.size → ExpressionAgrees bounds outcome s')
    (h : Stands bounds outcome (operand goal level outer) (operand goal level outer).groups s)
    (ht : s.ahead.current? = some t) (hkind : t.kind = .symbol .leftParen) :
    Agrees bounds outcome bounds.setting.group s fun e after =>
      Stands bounds outcome (operator goal level.sum (level.term e) outer)
        (operand goal level outer).groups after ∧ after.size < s.size := by
  have hmove : (operand goal level outer).move? t =
      some (.enter (operand goal .start (level :: outer))) :=
    operand?_eq_some_iff.2 (Or.inr (Or.inl ⟨hkind, rfl⟩))
  have hgroups : (operand goal .start (level :: outer)).groups =
      (operand goal level outer).groups + 1 := counted_of_move? hmove
  rw [Setting.group]
  refine (advance_agrees h ht hmove).bind ?_
  rintro u s₁ ⟨rfl, htook⟩
  refine (enter_agrees htook hmove).bind ?_
  rintro - s₂ ⟨hstands₂, hsize₂⟩
  refine (hexpression s₂ hsize₂ goal (level :: outer) hstands₂).bind ?_
  rintro e s₃ ⟨⟨sum, last, rfl, hstands₃, hnone⟩, hsize₃⟩
  -- Behind a complete expression only the closing parenthesis leads on.
  have hclosing : ∀ t, s₃.ahead.current? = some t → ∀ m,
      (operator goal sum last (level :: outer)).move? t = some m ↔ t.kind = .symbol .rightParen ∧
        m = .shift (operator goal level.sum (level.term (Pending.close sum last)) outer) := by
    intro t ht m
    rw [move?_operator_of_ne (hnone t ht), afterExpression?_group]
  have hend := tree?_operator_group goal sum last level outer
  refine (consume_agrees hstands₃ hclosing hend fun _ => rfl).bind ?_
  rintro closing s₄ ⟨-, htook₄⟩
  have hstands₄ := htook₄.stands
  have hsize₄ := htook₄.size_lt
  rw [show (operator goal sum last (level :: outer)).groups =
    (operand goal level outer).groups + 1 from hgroups] at hstands₄
  refine (leave_agrees hstands₄).bind ?_
  rintro - s₅ ⟨hstands₅, hsize₅⟩
  exact .pure ⟨hstands₅, by omega⟩

end

/-- The name in view is taken. -/
theorem name_agrees {next : Config} (h : Stands bounds outcome c c.groups s)
    (ht : s.ahead.current? = some t) (hmove : c.move? t = some (.shift next)) :
    Agrees bounds outcome name s fun v after =>
      v = ⟨t.text, t.span⟩ ∧ Stands bounds outcome next c.groups after ∧ after.size < s.size := by
  refine (advance_agrees h ht hmove).bind ?_
  rintro u s₁ ⟨rfl, htook⟩
  exact .pure ⟨rfl, htook.stands, htook.size_lt⟩

theorem factor_agrees_of (hfactor : ∀ s', s'.size < s.size → FactorAgrees bounds outcome s') :
    FactorAgrees bounds outcome s := by
  intro goal level outer hstands
  rw [Setting.factor]
  refine Agrees.inView ?_
  split
  · next hkind =>
    obtain ⟨t, ht, hkind⟩ := Option.map_eq_some_iff.1 hkind
    exact signed_agrees_of hfactor hstands ht hkind
  · next hkind =>
    obtain ⟨t, ht, hkind⟩ := Option.map_eq_some_iff.1 hkind
    exact signed_agrees_of hfactor hstands ht hkind
  · next value hkind =>
    obtain ⟨t, ht, hkind⟩ := Option.map_eq_some_iff.1 hkind
    have hmove : (operand goal level outer).move? t =
        some (.shift (operator goal level.sum (level.term (.number value t.span)) outer)) :=
      operand?_eq_some_iff.2 (Or.inr (Or.inr (Or.inl ⟨value, hkind, rfl⟩)))
    refine (advance_agrees hstands ht hmove).bind ?_
    rintro u s₁ ⟨rfl, htook⟩
    exact .pure ⟨htook.stands, htook.size_lt⟩
  · next hkind =>
    obtain ⟨t, ht, hkind⟩ := Option.map_eq_some_iff.1 hkind
    refine group_agrees_of (fun s' hs' => ?_) hstands ht hkind
    exact expression_agrees_of fun s'' hs'' => hfactor s'' (Nat.lt_of_le_of_lt hs'' hs')
  · next hkind =>
    obtain ⟨t, ht, hkind⟩ := Option.map_eq_some_iff.1 hkind
    have hmove : (operand goal level outer).move? t =
        some (.shift (operator goal level.sum (level.term (.var ⟨t.text, t.span⟩)) outer)) :=
      operand?_eq_some_iff.2 (Or.inr (Or.inr (Or.inr ⟨hkind, rfl⟩)))
    refine (name_agrees hstands ht hmove).bind ?_
    rintro v s₁ ⟨rfl, hstands₁, hsize₁⟩
    exact .pure ⟨hstands₁, hsize₁⟩
  · next hplus hminus hinteger hparen hname =>
    refine fail_agrees hstands ?_ ?_
    · cases hview : s.ahead.current? with
      | none => rfl
      | some t =>
        rw [hview, Option.map_some] at hplus hminus hinteger hparen hname
        refine Option.eq_none_iff_forall_ne_some.2 fun m hm => ?_
        rcases operand?_eq_some_iff.1 hm with ⟨sign, hkind, -⟩ | ⟨hkind, -⟩ | ⟨value, hkind, -⟩ |
          ⟨hkind, -⟩
        · cases sign
          · exact hplus (congrArg some hkind)
          · exact hminus (congrArg some hkind)
        · exact hparen (congrArg some hkind)
        · exact hinteger value (congrArg some hkind)
        · exact hname (congrArg some hkind)
    · rcases s.ahead.current? with _ | ⟨kind, text, span⟩
      · rfl
      · cases kind <;> rfl

/-- **The routine for factors does what the parser does**, on any items. -/
theorem factor_agrees (s : State) : FactorAgrees bounds outcome s := by
  induction hn : s.size using Nat.strongRecOn generalizing s with
  | ind n ih => exact factor_agrees_of fun s' hs' => ih s'.size (hn ▸ hs') s' rfl

/-- **The routine for expressions does what the parser does**, on any items. -/
theorem expression_agrees (s : State) : ExpressionAgrees bounds outcome s :=
  expression_agrees_of fun s' _ => factor_agrees s'

end Descent

end MiniPascal

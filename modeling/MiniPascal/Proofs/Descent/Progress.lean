/-
# The routines make progress

Between two entries of the same routine, one inside the other, a token is taken; a loop is a routine
that calls itself, and so this holds of its iterations, too.  Where no token is taken, the rules go
down from expressions to terms, factors and groups, or from statements to blocks and assignments.
So what is ahead and the rank of the rule make up a measure that each call lowers, whatever the
state, and all routines end.  Main statements:

* `body_serves` : a routine ends and takes its tokens, if those do that are entered further on;
* `routine_serves` : every routine ends, in any state;
* `below_of_enters` : each call lowers the measure;
* `reading_makes_progress` : what this comes to for readers and parsers.
-/
import MiniPascal.Proofs.Descent.Calls
import MiniPascal.Proofs.Descent.Depth
import MiniPascal.Proofs.Lexical.Advancing

namespace MiniPascal

namespace Descent

/-! ## Progress -/

variable {α β : Type} {k l : Nat} {s after last : State}

/-- The number of tokens that have been taken. -/
def State.consumed (s : State) : Nat := s.taken.length

/-- On the way from one state to the other at least `k` tokens have been taken, each of them one
that was ahead. -/
structure Passes (k : Nat) (s after : State) : Prop where
  /-- The tokens that have been taken. -/
  consumed_le : s.consumed + k ≤ after.consumed
  /-- What has been taken is no longer ahead. -/
  total_eq : after.consumed + after.size = s.consumed + s.size

namespace Passes

theorem refl (s : State) : Passes 0 s s := ⟨Nat.le_refl _, rfl⟩

theorem trans (h : Passes k s after) (h' : Passes l after last) : Passes (k + l) s last := by
  have hle := h.consumed_le
  have hle' := h'.consumed_le
  exact ⟨by omega, h'.total_eq.trans h.total_eq⟩

theorem weaken (h : Passes k s after) (hl : l ≤ k) : Passes l s after := by
  have hle := h.consumed_le
  exact ⟨by omega, h.total_eq⟩

end Passes

/-- The routine has an outcome in the state, and if it comes to a value, then in a state with the
property. -/
def Ends (r : Routine α) (s : State) (Q : State → Prop) : Prop :=
  ∃ result after, r s = some (result, after) ∧ ∀ a, result = .ok a → Q after

namespace Ends

variable {r : Routine α} {f : α → Routine β} {Q R : State → Prop}

theorem pure {a : α} (h : Q s) : Ends (pure a) s Q := ⟨.ok a, s, rfl, fun _ _ => h⟩

/-- A routine that stops ends. -/
theorem stops {stop : Stop} (h : r s = some (.error stop, after)) : Ends r s Q :=
  ⟨_, _, h, fun _ ha => nomatch ha⟩

/-- A routine that comes to a value ends. -/
theorem comes {a : α} (h : r s = some (.ok a, after)) (hQ : Q after) : Ends r s Q :=
  ⟨_, _, h, fun _ _ => hQ⟩

/-- A routine behind another one goes on from where the first one has come to. -/
theorem bind (h : Ends r s Q) (hf : ∀ a after, Q after → Ends (f a) after R) :
    Ends (r >>= f) s R := by
  obtain ⟨result | a, after, hr, hQ⟩ := h
  · exact stops (by rw [bind_apply, hr])
  · obtain ⟨last, final, hlast, hR⟩ := hf a after (hQ a rfl)
    exact ⟨last, final, by rw [bind_apply, hr]; exact hlast, hR⟩

theorem mono (h : Ends r s Q) (hQ : ∀ after, Q after → R after) : Ends r s R := by
  obtain ⟨result, after, hr, hafter⟩ := h
  exact ⟨result, after, hr, fun a ha => hQ after (hafter a ha)⟩

/-- Looking at what is in view changes nothing. -/
theorem inView {f : Option Token → Routine α} (h : Ends (f s.ahead.current?) s Q) :
    Ends (Descent.inView >>= f) s Q := h

/-- What has been taken before adds up with what the routine takes. -/
theorem behind (hs : Passes k s after) (h : Ends r after (Passes l after)) :
    Ends r after (Passes (k + l) s) :=
  h.mono fun _ hafter => hs.trans hafter

end Ends

/-! ## Single steps -/

/-- Taking the token in view takes one. -/
theorem ends_advance (s : State) : Ends advance s (Passes 1 s) := by
  cases hahead : s.ahead with
  | finish => exact .stops (by rw [advance, hahead])
  | token t rest =>
    rcases Ahead.items_cases rest with ⟨a, rfl⟩ | ⟨fault, rest, rfl⟩
    · refine .comes (advance_of_items hahead) ⟨Nat.le_refl _, ?_⟩
      have hsize : s.size = a.items.length + 1 := by
        rw [State.size, hahead]
        rfl
      show s.taken.length + 1 + a.items.length = s.taken.length + s.size
      omega
    · exact .stops (advance_of_fault hahead)

theorem ends_fail (stop : Nat) (cause : Option Token → Cause) (s : State) {Q : State → Prop} :
    Ends (fail stop cause : Routine α) s Q := .stops rfl

theorem ends_consume (stop : Nat) (kind : Kind) (expected : Expected) (s : State) :
    Ends (consume stop kind expected) s (Passes 1 s) := by
  refine Ends.inView ?_
  split
  · exact ends_advance s
  · exact ends_fail stop _ s

theorem ends_name (s : State) : Ends name s (Passes 1 s) :=
  (ends_advance s).bind fun _ _ h => .pure h

theorem ends_enter (limit : Nat) (place : Span) (s : State) :
    Ends (enter limit place) s (Passes 0 s) := by
  by_cases hdeep : limit < s.depth + 1
  · exact .stops (if_pos hdeep)
  · exact .comes (if_neg hdeep) ⟨Nat.le_refl _, rfl⟩

theorem ends_leave (s : State) : Ends leave s (Passes 0 s) := by
  cases hdepth : s.depth with
  | zero => exact .stops (by rw [leave, hdepth])
  | succ depth =>
    have hleave : leave s = some (.ok (), ⟨s.ahead, s.taken, depth⟩) := by rw [leave, hdepth]
    exact .comes hleave ⟨Nat.le_refl _, rfl⟩

theorem ends_nothing (stop : Nat) (s : State) : Ends (nothing stop) s (Passes 0 s) :=
  .comes rfl (.refl s)

/-! ## The measure -/

namespace Rule

/-- The number of tokens that the routine takes at least. -/
def least : Rule → Nat
  | terms | factors | statements | statement => 0
  | expression | term | factor | signed | group | assignment | block => 1

/-- How many routines may be entered, one inside the other, until a token has to be taken.  A loop
is entered behind a token only. -/
def rank : Rule → Nat
  | terms | factors | statements | expression => 3
  | term => 2
  | factor | statement => 1
  | signed | group | assignment | block => 0

end Rule

/-- The entry `y` is further on than `x`: tokens have been taken in between, or else its rule has a
lower rank.  None that was ahead has been lost. -/
structure Below (y x : Entry) : Prop where
  /-- What has been taken is no longer ahead. -/
  total_eq : y.state.consumed + y.state.size = x.state.consumed + x.state.size
  /-- What is further on. -/
  further : x.state.consumed < y.state.consumed ∨
    x.state.consumed = y.state.consumed ∧ y.rule.rank < x.rule.rank

theorem Below.trans {x y z : Entry} (h : Below y x) (h' : Below z y) : Below z x := by
  have hfurther := h.further
  have hfurther' := h'.further
  exact ⟨h'.total_eq.trans h.total_eq, by omega⟩

/-- **There is no end of going further on**: the items ahead run out, and the ranks in between. -/
theorem wellFounded_below : WellFounded Below := by
  let measure : Entry → Nat × Nat := fun x => (x.state.size, x.rule.rank)
  refine Subrelation.wf ?_ (InvImage.wf measure (Prod.lex Nat.lt_wfRel Nat.lt_wfRel).wf)
  intro y x h
  have htotal := h.total_eq
  show Prod.Lex (· < ·) (· < ·) (measure y) (measure x)
  rw [Prod.lex_def]
  rcases h.further with hconsumed | ⟨hconsumed, hrank⟩
  · left
    show y.state.size < x.state.size
    omega
  · right
    refine ⟨?_, hrank⟩
    show y.state.size = x.state.size
    omega

/-! ## One routine -/

/-- The routine in `call` that is entered ends, and it takes as many tokens as its rule asks for. -/
def Serves (call : Routines) (x : Entry) : Prop :=
  Ends (call x.rule x.given) x.state (Passes x.rule.least x.state)

section

variable {call : Routines} {rule : Rule} {given : rule.Given}

/-- A call behind a token. -/
theorem ends_call (h : ∀ y, Below y ⟨rule, given, s⟩ → Serves call y) (hs : Passes (k + 1) s after)
    (callee : Rule) (argument : callee.Given) :
    Ends (call callee argument) after (Passes (k + 1 + callee.least) s) := by
  have hle := hs.consumed_le
  refine .behind hs (h ⟨callee, argument, after⟩ ⟨hs.total_eq, Or.inl ?_⟩)
  show s.consumed < after.consumed
  omega

/-- A call in front of any token. -/
theorem ends_callFirst (h : ∀ y, Below y ⟨rule, given, s⟩ → Serves call y) (callee : Rule)
    (argument : callee.Given) (hrank : callee.rank < rule.rank) :
    Ends (call callee argument) s (Passes callee.least s) :=
  h ⟨callee, argument, s⟩ ⟨rfl, Or.inr ⟨rfl, hrank⟩⟩

/-- An iteration of a loop: a token, what belongs to it, and the further iterations. -/
theorem ends_iteration (h : ∀ y, Below y ⟨rule, given, s⟩ → Serves call y) (part loop : Rule)
    (argument : part.Given) (f : part.Result → loop.Given) :
    Ends (do
      let _ ← advance
      let result ← call part argument
      call loop (f result)) s (Passes 0 s) := by
  refine (ends_advance s).bind ?_
  intro t s₁ h₁
  refine (ends_call h h₁ part argument).bind ?_
  intro result s₂ h₂
  refine (ends_call h (h₂.weaken (Nat.le_add_right _ _)) loop (f result)).mono ?_
  intro s₃ h₃
  exact h₃.weaken (Nat.zero_le _)

variable {setting : Setting}

theorem ends_factor (h : ∀ y, Below y ⟨.factor, (), s⟩ → Serves call y) :
    Ends (setting.body call .factor ()) s (Passes 1 s) := by
  refine Ends.inView ?_
  split
  · exact ends_callFirst h .signed .plus (by decide)
  · exact ends_callFirst h .signed .minus (by decide)
  · exact (ends_advance s).bind fun literal s₁ h₁ => .pure h₁
  · exact ends_callFirst h .group () (by decide)
  · exact (ends_name s).bind fun v s₁ h₁ => .pure h₁
  · exact ends_fail _ _ s

theorem ends_signed {sign : Sign} (h : ∀ y, Below y ⟨.signed, sign, s⟩ → Serves call y) :
    Ends (setting.body call .signed sign) s (Passes 1 s) := by
  refine (ends_advance s).bind ?_
  intro mark s₁ h₁
  refine (Ends.behind h₁ (ends_enter _ _ s₁)).bind ?_
  intro _ s₂ h₂
  refine (ends_call h h₂ .factor ()).bind ?_
  intro operand s₃ h₃
  refine (Ends.behind h₃ (ends_leave s₃)).bind ?_
  intro _ s₄ h₄
  exact .pure (h₄.weaken (by decide))

theorem ends_group (h : ∀ y, Below y ⟨.group, (), s⟩ → Serves call y) :
    Ends (setting.body call .group ()) s (Passes 1 s) := by
  refine (ends_advance s).bind ?_
  intro opening s₁ h₁
  refine (Ends.behind h₁ (ends_enter _ _ s₁)).bind ?_
  intro _ s₂ h₂
  refine (ends_call h h₂ .expression ()).bind ?_
  intro inner s₃ h₃
  refine (Ends.behind h₃ (ends_consume _ _ _ s₃)).bind ?_
  intro closing s₄ h₄
  refine (Ends.behind h₄ (ends_leave s₄)).bind ?_
  intro _ s₅ h₅
  exact .pure (h₅.weaken (by decide))

theorem ends_assignment (h : ∀ y, Below y ⟨.assignment, (), s⟩ → Serves call y) :
    Ends (setting.body call .assignment ()) s (Passes 1 s) := by
  refine (ends_name s).bind ?_
  intro target s₁ h₁
  refine (Ends.behind h₁ (ends_consume _ _ _ s₁)).bind ?_
  intro sign s₂ h₂
  refine (ends_call h h₂ .expression ()).bind ?_
  intro value s₃ h₃
  exact .pure (h₃.weaken (by decide))

theorem ends_block (h : ∀ y, Below y ⟨.block, (), s⟩ → Serves call y) :
    Ends (setting.body call .block ()) s (Passes 1 s) := by
  refine (ends_consume _ _ _ s).bind ?_
  intro opening s₁ h₁
  refine (Ends.behind h₁ (ends_enter _ _ s₁)).bind ?_
  intro _ s₂ h₂
  refine (ends_call h h₂ .statement ()).bind ?_
  intro first s₃ h₃
  refine (ends_call h h₃ .statements [first]).bind ?_
  intro body s₄ h₄
  refine (Ends.behind h₄ (ends_consume _ _ _ s₄)).bind ?_
  intro closing s₅ h₅
  refine (Ends.behind h₅ (ends_leave s₅)).bind ?_
  intro _ s₆ h₆
  exact .pure (h₆.weaken (by decide))

theorem ends_statement (h : ∀ y, Below y ⟨.statement, (), s⟩ → Serves call y) :
    Ends (setting.body call .statement ()) s (Passes 0 s) := by
  refine Ends.inView ?_
  split
  · refine (ends_callFirst h .block () (by decide)).mono ?_
    exact fun s₁ h₁ => h₁.weaken (Nat.zero_le _)
  · refine (ends_callFirst h .assignment () (by decide)).mono ?_
    exact fun s₁ h₁ => h₁.weaken (Nat.zero_le _)
  · exact ends_nothing _ s

end

/-- **A routine serves if all do that are entered further on.** -/
theorem body_serves (setting : Setting) (call : Routines) (x : Entry)
    (h : ∀ y, Below y x → Serves call y) : Serves (setting.body call) x := by
  obtain ⟨rule, given, s⟩ := x
  unfold Serves
  cases rule with
  | expression =>
    refine (ends_callFirst h .term () (by decide)).bind ?_
    exact fun first s₁ h₁ => ends_call h h₁ .terms first
  | terms =>
    refine Ends.inView ?_
    split
    · exact ends_iteration h .term .terms () _
    · exact .pure (.refl s)
  | term =>
    refine (ends_callFirst h .factor () (by decide)).bind ?_
    exact fun first s₁ h₁ => ends_call h h₁ .factors first
  | factors =>
    refine Ends.inView ?_
    split
    · exact ends_iteration h .factor .factors () _
    · exact .pure (.refl s)
  | factor => exact ends_factor h
  | signed => exact ends_signed h
  | group => exact ends_group h
  | assignment => exact ends_assignment h
  | block => exact ends_block h
  | statements =>
    refine Ends.inView ?_
    split
    · exact ends_iteration h .statement .statements () _
    · exact .pure (.refl s)
  | statement => exact ends_statement h

/-! ## All routines -/

namespace Setting

variable {setting : Setting} {x y : Entry}

/-- **Every routine ends**, whatever the state. -/
theorem routine_serves (setting : Setting) (x : Entry) : Serves setting.routine x := by
  induction x using wellFounded_below.induction with
  | _ x ih =>
    have hbody := body_serves setting setting.routine x ih
    unfold Serves at hbody ⊢
    rwa [routine_eq_body]

/-- **A routine enters only what is further on.** -/
theorem below_of_enters (h : setting.Enters x y) : Below y x := by
  by_contra hbelow
  have hserves : Serves (setting.body (setting.without y)) x := by
    refine body_serves setting _ x fun z hz => ?_
    have hne : z ≠ y := by
      rintro rfl
      exact hbelow hz
    obtain ⟨result, after, hresult, hafter⟩ := setting.routine_serves z
    exact ⟨result, after, (without_of_ne hne).trans hresult, hafter⟩
  obtain ⟨result, after, hresult, -⟩ := hserves
  rw [h] at hresult
  cases hresult

/-- What is entered in the course of a routine is further on. -/
theorem below_of_transGen (h : Relation.TransGen setting.Enters x y) : Below y x := by
  induction h with
  | single hxy => exact below_of_enters hxy
  | tail _ hyz ih => exact ih.trans (below_of_enters hyz)

end Setting

end Descent

/-! ## Parsers -/

namespace Parser

/-- No more groups count as open than tokens have been taken. -/
theorem depth_le_consumed {parser : Parser} (h : parser.bounds.depth ≤ parser.consumed)
    (modes : List Mode) : (parser.after modes).bounds.depth ≤ (parser.after modes).consumed := by
  induction modes generalizing parser with
  | nil => exact h
  | cons mode modes ih =>
    refine ih ?_
    obtain ⟨front, ds, c, hreads, htaken, hdepth⟩ := parser.exists_reads_of_parse mode
    have hgroups := hreads.groups_le.2
    rw [Config.groups_start] at hgroups
    rw [hdepth, consumed, htaken, List.length_append, List.length_reverse]
    unfold consumed at h
    omega

/-- No more tokens are taken than the source has characters. -/
theorem Lives.consumed_le {source : String} {limit : Nat} {parser p : Parser}
    {reading : Option Config} (hparser : ofSource source limit = .ok parser)
    (h : parser.Lives (reading, p)) : p.consumed ≤ source.length := by
  have hconserves : p.Conserves (readable source) := h.conserves (conserves_ofSource hparser).1
  calc p.consumed ≤ (readable source).length := hconserves.spec.2.1
    _ ≤ (Cursor.ofSource source).items.length := by
      rw [readable_eq]
      exact List.length_filterMap_le _ _
    _ ≤ source.length := Cursor.length_items_ofSource_le source

/-- A call in the life of a parser comes to what the routine for whole sources comes to. -/
theorem whole_after {source : String} {limit : Nat} {first : Parser}
    (h : ofSource source limit = .ok first) (modes : List Mode) (mode : Mode) :
    Descent.Setting.whole ⟨source.length, limit⟩ mode (.ofParser (first.after modes)) =
      some (((first.after modes).parse mode).1.mapError .fault,
        .ofParser (first.after (modes ++ [mode]))) := by
  obtain ⟨hbounds, hlexical⟩ := ofSource_bounds h
  obtain ⟨hstop, hlimit, -⟩ := after_unchanged hlexical modes
  have hsetting : (first.after modes).bounds.setting = ⟨source.length, limit⟩ := by
    rw [Bounds.setting, hstop, hlimit, hbounds]
    rfl
  rw [← hsetting, Descent.whole_eq, after_concat]

end Parser

open Descent in
/-- **Reading goes forward until it ends**, without a bound on the number of its steps.  A reading
in front of the end of the source takes the reader strictly forward and never beyond the end,
whatever it gives, so as many of them as there are characters take it to the end.  What a routine
comes to depends on what it enters only.  Of the routines, one that is entered in the course of
another has no fewer tokens behind it; a routine that is entered again in the course of itself, as
each further iteration of a loop is, has more of them.  So the routines do not enter each other
without end, and each one comes to an outcome in every state.  Any sequence of calls on a parser
comes to what the routines come to, whatever the limit; over the whole life of the parser no more
groups are counted than tokens have been taken, and no more tokens are taken than the source has
characters. -/
theorem reading_makes_progress (source : String) (limit : Nat) :
    (∀ calls, let reader := (Reader.ofSource source).after calls
      reader.cursor.offset ≤ source.length ∧ reader.read.2.cursor.offset ≤ source.length ∧
      (reader.cursor.offset < source.length →
        reader.cursor.offset < reader.read.2.cursor.offset)) ∧
    ((Reader.ofSource source).after (List.replicate source.length .read)).cursor.offset =
      source.length ∧
    (∀ (x : Entry) call, (∀ y, Setting.Enters ⟨source.length, limit⟩ x y →
        call y.rule y.given y.state =
          Setting.routine ⟨source.length, limit⟩ y.rule y.given y.state) →
      Setting.body ⟨source.length, limit⟩ call x.rule x.given x.state =
        Setting.routine ⟨source.length, limit⟩ x.rule x.given x.state) ∧
    (∀ x y, Relation.TransGen (Setting.Enters ⟨source.length, limit⟩) x y →
      x.state.consumed ≤ y.state.consumed ∧
      (x.rule = y.rule → x.state.consumed < y.state.consumed)) ∧
    WellFounded (fun y x => Setting.Enters ⟨source.length, limit⟩ x y) ∧
    (∀ rule given s, ∃ outcome,
      Setting.routine ⟨source.length, limit⟩ rule given s = some outcome) ∧
    ∀ first, Parser.ofSource source limit = .ok first →
      (∀ modes mode,
        Setting.whole ⟨source.length, limit⟩ mode (.ofParser (first.after modes)) =
          some (((first.after modes).parse mode).1.mapError .fault,
            .ofParser (first.after (modes ++ [mode])))) ∧
      (∀ modes, (first.after modes).bounds.depth ≤ (first.after modes).consumed) ∧
      ∀ reading p, first.Lives (reading, p) → p.consumed ≤ source.length := by
  refine ⟨?_, ?_, Setting.body_eq_of_enters, ?_, ?_, ?_, ?_⟩
  · intro calls reader
    have hstop : reader.cursor.stop = source.length := Reader.stop_after_ofSource source calls
    have hread : reader.read.2.cursor.stop = source.length :=
      (reader.stop_answer .read).trans hstop
    refine ⟨?_, ?_, ?_⟩
    · rw [← hstop]
      exact reader.cursor.offset_le_stop
    · rw [← hread]
      exact reader.read.2.cursor.offset_le_stop
    · rw [← hstop]
      exact reader.offset_lt_offset_read
  · have hlength : (Reader.ofSource source).cursor.rest.length = source.length :=
      String.length_toList
    exact (Reader.offset_after_reads _ (Nat.le_of_eq hlength)).trans
      (Reader.stop_after_ofSource source [])
  · intro x y h
    have hfurther := (Setting.below_of_transGen h).further
    refine ⟨by omega, fun hrule => ?_⟩
    rw [hrule] at hfurther
    omega
  · exact Subrelation.wf Setting.below_of_enters wellFounded_below
  · intro rule given s
    obtain ⟨result, after, houtcome, -⟩ := Setting.routine_serves _ ⟨rule, given, s⟩
    exact ⟨_, houtcome⟩
  · intro first hfirst
    refine ⟨fun modes mode => first.whole_after hfirst modes mode, ?_, ?_⟩
    · refine fun modes => Parser.depth_le_consumed ?_ modes
      rw [(Parser.ofSource_bounds hfirst).1]
      exact Nat.zero_le _
    · exact fun reading p h => Parser.Lives.consumed_le hfirst h

open Descent in
/-- In `-1` the routine for factors is entered again, behind the sign. -/
theorem reading_makes_progress_sign :
    let sign : Token := ⟨.symbol .minus, "-", ⟨0, 1⟩⟩
    let one : Token := ⟨.integer ⟨1, by decide, by decide⟩, "1", ⟨1, 2⟩⟩
    let front : State := ⟨.token sign [.token one], [], 0⟩
    let behind : State := ⟨.token one [], [sign], 1⟩
    let first : Parser := ⟨.first "-1" 1, front.ahead, []⟩
    Relation.TransGen (Setting.Enters ⟨2, 1⟩) ⟨.factor, (), front⟩ ⟨.factor, (), behind⟩ ∧
      front.consumed < behind.consumed ∧ Parser.ofSource "-1" 1 = .ok first ∧
      Setting.whole ⟨2, 1⟩ .expression (.ofParser first) =
        some ((first.parse .expression).1.mapError .fault,
          .ofParser (first.after [.expression])) ∧
      (first.after [.expression]).consumed ≤ 2 := by
  intro sign one front behind first
  have hsigned : Setting.Enters ⟨2, 1⟩ ⟨.factor, (), front⟩ ⟨.signed, .minus, front⟩ :=
    Setting.without_self ⟨2, 1⟩ ⟨.signed, .minus, front⟩
  have hfactor : Setting.Enters ⟨2, 1⟩ ⟨.signed, .minus, front⟩ ⟨.factor, (), behind⟩ := by
    have hnone := Setting.without_self ⟨2, 1⟩ ⟨.factor, (), behind⟩
    show Option.bind (Setting.without _ _ .factor () behind) _ = none
    rw [hnone]
    rfl
  have hchain := Relation.TransGen.tail (.single hsigned) hfactor
  have hfirst : Parser.ofSource "-1" 1 = .ok first :=
    Parser.ofSource_of_items (a := front.ahead) (by decide +kernel)
  obtain ⟨-, -, -, hfurther, -, -, hparser⟩ := reading_makes_progress "-1" 1
  obtain ⟨hwhole, -, hconsumed⟩ := hparser first hfirst
  have hlives : first.Lives (none, first.after [.expression]) := Parser.lives_iff.2 ⟨_, rfl⟩
  exact ⟨hchain, (hfurther _ _ hchain).2 rfl, hfirst, hwhole [] .expression, hconsumed _ _ hlives⟩

end MiniPascal

/-
# Tokens are neither lost nor repeated

A parser may be asked for trees any number of times, also after a fault.  Its life is a sequence of
steps: a call starts, a token is taken and told of, or a call comes to its halt.  At each moment of
it, inside a call or between two, the tokens that have been taken and those that are ahead make up
the tokens of the source, in order, and what has been told so far are the tokens that have been
taken.  A lexical fault is passed over, and the tokens around it stay.  Main statements:

* `livesTelling_iff` : between two calls a parser is where the calls so far have brought it, and has
  told what they tell;
* `Step.conserves` : one step keeps the tokens and tells of those that it takes;
* `tokens_conserved` : so does the whole life of a parser.
-/
import MiniPascal.Proofs.Lexical.Interleaving
import MiniPascal.Proofs.Parser.Run
import MiniPascal.Run

namespace MiniPascal

open Config

/-! ## The life of a parser -/

namespace Parser

/-- The parser behind calls for trees of the modes, whether they come to trees or to faults. -/
def after (parser : Parser) : List Mode → Parser
  | [] => parser
  | mode :: modes => (parser.parse mode).2.after modes

/-- What the parser tells in calls for trees of the modes, whether they come to trees or to
faults. -/
def told (parser : Parser) : List Mode → List Event
  | [] => []
  | mode :: modes => (parser.parseTelling mode).2 ++ (parser.parse mode).2.told modes

/-- One step in the life of a parser, with the events that it tells.  Inside a call the parser is in
a configuration, and between two calls it is in none. -/
inductive Step : Option Config × Parser → List Event → Option Config × Parser → Prop
  /-- A call for a tree of the mode starts. -/
  | call {parser : Parser} (mode : Mode) : Step (none, parser) [] (some (start mode), parser)
  /-- The token in view is taken. -/
  | take {c : Config} {t : Token} {m : Move} {bounds : Bounds} {a : Ahead} {taken : List Token} :
    c.move? t = some m → bounds.exceededBy m = false →
    Step (some c, ⟨bounds, .token t a.items, taken⟩) [.tokenTaken t]
      (some m.next, ⟨bounds, a, t :: taken⟩)
  /-- The token in view is taken, and the call ends, as the token opens a group too many. -/
  | tooDeep {c : Config} {t : Token} {m : Move} {bounds : Bounds} {a : Ahead}
    {taken : List Token} :
    c.move? t = some m → bounds.exceededBy m = true →
    Step (some c, ⟨bounds, .token t a.items, taken⟩) [.tokenTaken t]
      (none, behind bounds (.tooDeep bounds taken m.next t a))
  /-- The call ends at the end of the source. -/
  | atEnd {c : Config} {bounds : Bounds} {taken : List Token} :
    Step (some c, ⟨bounds, .finish, taken⟩) [] (none, behind bounds (.atEnd bounds taken c))
  /-- The call ends at a token that the grammar refuses. -/
  | refused {c : Config} {t : Token} {bounds : Bounds} {rest : List Item} {taken : List Token} :
    c.move? t = none →
    Step (some c, ⟨bounds, .token t rest, taken⟩) []
      (none, behind bounds (.refused taken c t rest))
  /-- The call ends at a lexical fault behind the token in view, which is dropped. -/
  | fault {c : Config} {t : Token} {m : Move} {bounds : Bounds} {fault : Fault}
    {rest : List Item} {taken : List Token} :
    c.move? t = some m →
    Step (some c, ⟨bounds, .token t (.fault fault :: rest), taken⟩) []
      (none, behind bounds ⟨.error fault, c.groups, .token t rest, taken⟩)

/-- Steps in a row, with all the events that they tell. -/
inductive Steps : Option Config × Parser → List Event → Option Config × Parser → Prop
  | refl (s : Option Config × Parser) : Steps s [] s
  | tail {s s' s'' : Option Config × Parser} {told events : List Event} :
    Steps s told s' → Step s' events s'' → Steps s (told ++ events) s''

/-- The parser comes by the standing in its life, which starts between two calls, and has told the
events by then. -/
def LivesTelling (parser : Parser) (told : List Event) (s : Option Config × Parser) : Prop :=
  Steps (none, parser) told s

/-- The parser comes by the standing in its life, whatever it tells. -/
def Lives (parser : Parser) (s : Option Config × Parser) : Prop :=
  ∃ told, parser.LivesTelling told s

theorem after_concat (parser : Parser) (modes : List Mode) (mode : Mode) :
    parser.after (modes ++ [mode]) = ((parser.after modes).parse mode).2 := by
  induction modes generalizing parser with
  | nil => rfl
  | cons first modes ih => exact ih _

theorem told_concat (parser : Parser) (modes : List Mode) (mode : Mode) :
    parser.told (modes ++ [mode]) =
      parser.told modes ++ ((parser.after modes).parseTelling mode).2 := by
  induction modes generalizing parser with
  | nil => exact List.append_nil _
  | cons first modes ih => rw [List.cons_append, told, ih, told, List.append_assoc, after]

/-! ## Steps and calls -/

variable {s s' s'' : Option Config × Parser} {told events : List Event}

theorem Steps.trans (h : Steps s told s') (h' : Steps s' events s'') :
    Steps s (told ++ events) s'' := by
  induction h' with
  | refl => rwa [List.append_nil]
  | tail _ hstep ih =>
    rw [← List.append_assoc]
    exact ih.tail hstep

theorem Step.steps (h : Step s events s') : Steps s events s' := (Steps.refl s).tail h

theorem Steps.head (h : Step s told s') (h' : Steps s' events s'') :
    Steps s (told ++ events) s'' :=
  h.steps.trans h'

/-- A call is a reading with room for its groups and a halt behind it. -/
theorem exists_halts_of_parse (parser : Parser) (mode : Mode) :
    ∃ ts ds c a outcome, Reads (start mode) ts ds c ∧ (∀ n ∈ ds, n ≤ parser.bounds.room) ∧
      c.groups ≤ parser.bounds.room ∧ parser.ahead.items = ts.map .token ++ a.items ∧
      Parse.Halts parser.bounds (ts.reverse ++ parser.taken) c a outcome ∧
      parser.parse mode = (outcome.result, behind parser.bounds outcome) := by
  have hroom : (start mode).groups ≤ parser.bounds.room := by
    rw [groups_start]
    exact Nat.zero_le _
  obtain ⟨ts, ds, c, a, hreads, hds, hc, hitems, hhalts⟩ :=
    Parse.exists_halts parser.taken parser.ahead hroom
  exact ⟨ts, ds, c, a, _, hreads, hds, hc, hitems, hhalts, rfl⟩

/-- A run is made of steps, down to its halt, and it tells what they tell. -/
theorem steps_of_ofAhead (bounds : Bounds) (told : List Event) (taken : List Token) (c : Config)
    (a : Ahead) :
    ∃ events, Steps (some c, ⟨bounds, a, taken⟩) events
        (none, behind bounds (.ofAhead bounds taken c a)) ∧
      (Parse.ofAheadTelling bounds told taken c a).2 = events.reverse ++ told := by
  -- Each token that is taken leaves one item less ahead.
  induction hn : a.items.length generalizing told taken c a with
  | zero =>
    obtain rfl := Ahead.eq_finish_of_length hn
    exact ⟨[], Step.atEnd.steps, rfl⟩
  | succ n ih =>
    cases a with
    | finish => cases hn
    | token t rest =>
      rw [Parse.ofAhead, Parse.ofAheadTelling]
      rcases hmove : c.move? t with _ | m
      · rw [Parse.run_of_refused hmove, Parse.runTelling_of_refused hmove]
        exact ⟨[], (Step.refused hmove).steps, rfl⟩
      · rcases Ahead.items_cases rest with ⟨b, rfl⟩ | ⟨fault, rest, rfl⟩
        · rw [Parse.run_of_move hmove, Parse.runTelling_of_move hmove]
          cases hexceeded : bounds.exceededBy m with
          | true => exact ⟨[.tokenTaken t], (Step.tooDeep hmove hexceeded).steps, rfl⟩
          | false =>
            obtain ⟨events, hsteps, htold⟩ :=
              ih (.tokenTaken t :: told) (t :: taken) m.next b (Nat.succ.inj hn)
            refine ⟨.tokenTaken t :: events, hsteps.head (.take hmove hexceeded), ?_⟩
            rw [List.reverse_cons, List.append_assoc]
            exact htold
        · rw [Parse.run_of_fault hmove, Parse.runTelling_of_fault hmove]
          exact ⟨[], (Step.fault hmove).steps, rfl⟩

/-- A call is made of steps, and it tells what they tell. -/
theorem steps_of_parse (parser : Parser) (mode : Mode) :
    Steps (none, parser) (parser.parseTelling mode).2 (none, (parser.parse mode).2) := by
  obtain ⟨events, hsteps, htold⟩ :=
    steps_of_ofAhead parser.bounds [] parser.taken (start mode) parser.ahead
  have hevents : (parser.parseTelling mode).2 = events := by
    rw [parseTelling_snd, htold, List.append_nil, List.reverse_reverse]
  rw [hevents]
  exact hsteps.head (.call mode)

/-- What a standing of the parser and what has been told by then say of the calls.  Between two
calls they have brought the parser there and told that.  Inside a call the parser is on the way to
the outcome of that call, and `front`, of which the latest comes first, is what the call has told so
far. -/
def Called (parser : Parser) (told : List Event) : Option Config × Parser → Prop
  | (none, p) => ∃ modes, p = parser.after modes ∧ told = parser.told modes
  | (some c, p) =>
    ∃ modes mode front, told = parser.told modes ++ front.reverse ∧
      ((parser.after modes).parse mode).2 =
        behind p.bounds (.ofAhead p.bounds p.taken c p.ahead) ∧
      ((parser.after modes).parseTelling mode).2 =
        (Parse.ofAheadTelling p.bounds front p.taken c p.ahead).2.reverse

/-- The call that the parser is in is over where the run is. -/
theorem Called.ends {parser p : Parser} {c : Config} {outcome : Parse}
    (h : parser.Called told (some c, p))
    (hrun : ∀ front, Parse.ofAheadTelling p.bounds front p.taken c p.ahead =
      (outcome, events.reverse ++ front)) :
    parser.Called (told ++ events) (none, behind p.bounds outcome) := by
  obtain ⟨modes, mode, front, rfl, hparse, htold⟩ := h
  refine ⟨modes ++ [mode], ?_, ?_⟩
  · rw [after_concat, hparse, ← Parse.ofAheadTelling_fst front, hrun]
  · rw [told_concat, htold, hrun, List.reverse_append, List.reverse_reverse, List.append_assoc]

theorem Step.called {parser : Parser} (h : Step s events s') (hs : parser.Called told s) :
    parser.Called (told ++ events) s' := by
  cases h with
  | call mode =>
    obtain ⟨modes, rfl, rfl⟩ := hs
    exact ⟨modes, mode, [], rfl, rfl, rfl⟩
  | @take c t m bounds a taken hmove hexceeded =>
    obtain ⟨modes, mode, front, rfl, hparse, htold⟩ := hs
    refine ⟨modes, mode, .tokenTaken t :: front, ?_, ?_, ?_⟩
    · rw [List.reverse_cons, List.append_assoc]
    · rw [hparse, Parse.ofAhead, Parse.run_of_move hmove, hexceeded]
      rfl
    · rw [htold, Parse.ofAheadTelling, Parse.runTelling_of_move hmove, hexceeded]
      rfl
  | tooDeep hmove hexceeded =>
    refine hs.ends fun front => ?_
    rw [Parse.ofAheadTelling, Parse.runTelling_of_move hmove, hexceeded]
    rfl
  | atEnd => exact hs.ends fun front => rfl
  | refused hmove => exact hs.ends fun front => Parse.runTelling_of_refused hmove _
  | fault hmove =>
    refine hs.ends fun front => ?_
    rw [Parse.ofAheadTelling, Parse.runTelling_of_fault hmove]
    rfl

/-- **Between two calls a parser is where the calls so far have brought it**, and it has told what
they tell. -/
theorem livesTelling_iff {parser p : Parser} :
    parser.LivesTelling told (none, p) ↔
      ∃ modes, p = parser.after modes ∧ told = parser.told modes := by
  constructor
  · intro h
    have hcalled : ∀ {told s}, parser.LivesTelling told s → parser.Called told s := by
      intro told s hs
      induction hs with
      | refl => exact ⟨[], rfl, rfl⟩
      | tail _ hstep ih => exact hstep.called ih
    exact hcalled h
  · rintro ⟨modes, rfl, rfl⟩
    induction modes generalizing parser with
    | nil => exact .refl _
    | cons mode modes ih => exact (steps_of_parse parser mode).trans ih

theorem lives_iff {parser p : Parser} :
    parser.Lives (none, p) ↔ ∃ modes, p = parser.after modes := by
  constructor
  · rintro ⟨told, h⟩
    obtain ⟨modes, hp, -⟩ := livesTelling_iff.1 h
    exact ⟨modes, hp⟩
  · rintro ⟨modes, hp⟩
    exact ⟨_, livesTelling_iff.2 ⟨modes, hp, rfl⟩⟩

end Parser

/-! ## The tokens of a source -/

/-- The token that an item is. -/
def Item.token? : Item → Option Token
  | token t => some t
  | fault _ => none

/-- The tokens of a source in the order in which reading item by item gives them, with the faults
between them left out. -/
def readable (source : String) : List Token :=
  ((Reader.ofSource source).readings source.length).filterMap fun found => found.bind Item.token?

/-- Readings beyond the items give nothing more. -/
theorem Reader.filterMap_readings (reader : Reader) {n : Nat}
    (h : reader.cursor.items.length ≤ n) :
    (reader.readings n).filterMap (fun found => found.bind Item.token?) =
      reader.cursor.items.filterMap Item.token? := by
  induction n generalizing reader with
  | zero =>
    rw [List.eq_nil_of_length_eq_zero (Nat.le_zero.1 h)]
    rfl
  | succ n ih =>
    rw [Cursor.items_eq] at h ⊢
    unfold readings Reader.read
    rcases hnext : reader.cursor.next? with _ | ⟨item, after⟩
    · have hnone : reader.cursor.skip.items = [] := by
        rw [Cursor.items_eq, Cursor.next?_skip hnext]
      have hrest := ih ⟨reader.cursor.skip, reader.closed⟩ (by rw [hnone]; exact Nat.zero_le n)
      rw [hnone] at hrest
      exact hrest
    · rw [hnext] at h
      have hrest := ih ⟨after, reader.closed⟩ (Nat.le_of_succ_le_succ h)
      show List.filterMap _ (some item :: _) = List.filterMap _ (item :: after.items)
      rw [List.filterMap_cons, List.filterMap_cons, hrest]
      rfl

theorem readable_eq (source : String) :
    readable source = (Cursor.ofSource source).items.filterMap Item.token? :=
  Reader.filterMap_readings _ (Cursor.length_items_ofSource_le source)

/-! ## Conservation -/

namespace Parser

/-- What has been taken and what is ahead make up the tokens. -/
def Conserves (q : List Token) (parser : Parser) : Prop :=
  parser.taken.reverse ++ parser.ahead.items.filterMap Item.token? = q

variable {q : List Token} {parser : Parser}

/-- The tokens that have been taken are the first ones, and the token in view is the next one. -/
theorem Conserves.spec (h : parser.Conserves q) :
    parser.taken.reverse = q.take parser.consumed ∧ parser.consumed ≤ q.length ∧
      parser.ahead.current? = q[parser.consumed]? := by
  have hlength : parser.taken.reverse.length = parser.consumed := List.length_reverse
  rw [← h]
  refine ⟨?_, ?_, ?_⟩
  · rw [← hlength, List.take_left]
  · rw [List.length_append]
    omega
  · rw [← hlength, List.getElem?_append_right (Nat.le_refl _), Nat.sub_self]
    cases parser.ahead <;> rfl

/-- What a step tells are the tokens that it takes. -/
theorem Step.tells {s s' : Option Config × Parser} {events : List Event} (h : Step s events s') :
    ∃ ts : List Token, events = ts.map .tokenTaken ∧ s'.2.taken = ts.reverse ++ s.2.taken := by
  cases h with
  | call mode => exact ⟨[], rfl, rfl⟩
  | @take c t m bounds a taken _ _ => exact ⟨[t], rfl, rfl⟩
  | @tooDeep c t m bounds a taken _ _ => exact ⟨[t], rfl, rfl⟩
  | @atEnd c bounds taken =>
    refine ⟨[], rfl, ?_⟩
    show (Parse.atEnd bounds taken c).taken = taken
    unfold Parse.atEnd
    split <;> rfl
  | refused _ => exact ⟨[], rfl, rfl⟩
  | fault _ => exact ⟨[], rfl, rfl⟩

theorem Steps.tells {s s' : Option Config × Parser} {told : List Event} (h : Steps s told s') :
    ∃ ts : List Token, told = ts.map .tokenTaken ∧ s'.2.taken = ts.reverse ++ s.2.taken := by
  induction h with
  | refl => exact ⟨[], rfl, rfl⟩
  | tail _ hstep ih =>
    obtain ⟨ts, rfl, htaken⟩ := ih
    obtain ⟨us, rfl, htaken'⟩ := hstep.tells
    refine ⟨ts ++ us, List.map_append.symm, ?_⟩
    rw [htaken', htaken, List.reverse_append, List.append_assoc]

/-- **One step keeps the tokens.** -/
theorem Step.conserves {s s' : Option Config × Parser} {events : List Event}
    (h : Step s events s') (hs : s.2.Conserves q) : s'.2.Conserves q := by
  have htake : ∀ {t : Token} {a : Ahead} {taken : List Token},
      taken.reverse ++ (t :: a.items.filterMap Item.token?) = q →
        (t :: taken).reverse ++ a.items.filterMap Item.token? = q := by
    intro t a taken hq
    rw [← hq, List.reverse_cons, List.append_assoc]
    rfl
  cases h with
  | call mode => exact hs
  | take _ _ => exact htake hs
  | tooDeep _ _ => exact htake hs
  | atEnd =>
    unfold Parse.atEnd
    split
    · exact hs
    · exact hs
  | refused _ => exact hs
  -- The fault is dropped, and it is no token.
  | fault _ => exact hs

theorem Steps.conserves {s s' : Option Config × Parser} {told : List Event}
    (h : Steps s told s') (hs : s.2.Conserves q) : s'.2.Conserves q := by
  induction h with
  | refl => exact hs
  | tail _ hstep ih => exact hstep.conserves ih

theorem Lives.conserves {s : Option Config × Parser} (h : parser.Lives s)
    (hparser : parser.Conserves q) : s.2.Conserves q := by
  obtain ⟨told, hsteps⟩ := h
  exact hsteps.conserves hparser

/-- A call that comes to a tree has come to the end of the source. -/
theorem ahead_of_parse {mode : Mode} {tree : Tree} (h : (parser.parse mode).1 = .ok tree) :
    (parser.parse mode).2.ahead = .finish := by
  obtain ⟨ts, ds, c, a, outcome, -, -, -, -, hhalts, hparse⟩ := parser.exists_halts_of_parse mode
  rw [hparse] at h ⊢
  obtain ⟨rfl, -⟩ := hhalts.result_eq_ok_iff.1 h
  cases hhalts with
  | atEnd =>
    show (Parse.atEnd _ _ _).ahead = .finish
    unfold Parse.atEnd
    split <;> rfl

/-- At the start of a source all its tokens are ahead, and none has been taken. -/
theorem conserves_ofSource {source : String} {limit : Nat}
    (h : Parser.ofSource source limit = .ok parser) :
    parser.Conserves (readable source) ∧ parser.taken = [] := by
  rcases Ahead.items_cases (Cursor.ofSource source).items with ⟨a, ha⟩ | ⟨fault, rest, hfault⟩
  · rw [ofSource_of_items ha.symm] at h
    obtain rfl := Except.ok.inj h
    refine ⟨?_, rfl⟩
    rw [readable_eq, ← ha]
    rfl
  · rw [ofSource_of_fault hfault] at h
    cases h

/-- What the parser of a source has told are the tokens that it has taken. -/
theorem LivesTelling.told_eq {source : String} {limit : Nat} {told : List Event}
    {s : Option Config × Parser} (h : Parser.ofSource source limit = .ok parser)
    (hs : parser.LivesTelling told s) : told = s.2.taken.reverse.map .tokenTaken := by
  obtain ⟨ts, rfl, htaken⟩ := Steps.tells hs
  rw [htaken, (conserves_ofSource h).2, List.append_nil, List.reverse_reverse]

end Parser

/-- The token that an event tells of. -/
def Event.token? : Event → Option Token
  | tokenTaken t => some t
  | _ => none

/-- The events of reading a tree are those of the tokens that are taken, in order, and behind them
those of the tree, if the reading comes to one. -/
theorem parseTelling_of_ofSource {source : String} {limit : Nat} {parser : Parser}
    (h : Parser.ofSource source limit = .ok parser) (mode : Mode) :
    parseTelling source mode limit =
      ((parser.parse mode).1, (parser.parse mode).2.taken.reverse.map .tokenTaken ++
        match (parser.parse mode).1 with
        | .error _ => []
        | .ok tree =>
          [.parsed mode (parser.parse mode).2.consumed tree.statementCount, .treeKnown tree]) := by
  have htold := Parser.LivesTelling.told_eq h (parser.steps_of_parse mode)
  rw [← htold, ← parser.parseTelling_fst]
  unfold parseTelling
  rw [h]
  dsimp only
  cases (parser.parseTelling mode).1.1 with
  | error fault => rw [List.append_nil]
  | ok tree => rfl

/-- Events of tokens tell of the tokens. -/
theorem filterMap_tokenTaken (ts : List Token) :
    (ts.map Event.tokenTaken).filterMap Event.token? = ts := by
  rw [List.filterMap_map]
  exact List.filterMap_some

/-- The events of reading a tree tell of the tokens that are taken. -/
theorem parseTelling_tokens {source : String} {mode : Mode} {limit : Nat} {parser : Parser}
    (h : Parser.ofSource source limit = .ok parser) :
    (parseTelling source mode limit).2.filterMap Event.token? =
      (parser.parse mode).2.taken.reverse := by
  rw [parseTelling_of_ofSource h]
  dsimp only
  rw [List.filterMap_append, filterMap_tokenTaken]
  cases (parser.parse mode).1 <;> exact List.append_nil _

/-- **The tokens of a source are neither lost nor repeated** in the life of a parser.  At each
moment of it, in the middle of a call or between two, those that have been taken are the first ones
of the source in their order, the token in view is the next one, and what has been told are the
tokens that have been taken, one event for each.  A step takes the tokens that it tells of, and what
has been taken stays taken.  Between two calls the parser is where some sequence of calls has
brought it, and it has told what they tell; after a call that comes to a tree it is at the end of
the source.  If that call is the first one, all tokens of the source have been taken. -/
theorem tokens_conserved {source : String} {limit : Nat} {parser : Parser}
    (h : Parser.ofSource source limit = .ok parser) :
    (∀ told reading p, parser.LivesTelling told (reading, p) →
      p.taken.reverse = (readable source).take p.consumed ∧
      p.consumed ≤ (readable source).length ∧
      p.ahead.current? = (readable source)[p.consumed]? ∧
      told = ((readable source).take p.consumed).map .tokenTaken ∧
      ∀ events s, Parser.Step (reading, p) events s →
        p.taken <:+ s.2.taken ∧ events = (s.2.taken.reverse.drop p.consumed).map .tokenTaken) ∧
    (∀ told p, parser.LivesTelling told (none, p) ↔
      ∃ modes, p = parser.after modes ∧ told = parser.told modes) ∧
    (∀ modes, parser.told modes =
      ((readable source).take (parser.after modes).consumed).map .tokenTaken) ∧
    (∀ modes mode tree, ((parser.after modes).parse mode).1 = .ok tree →
      ((parser.after modes).parse mode).2.ahead = .finish) ∧
    ∀ mode,
      (parseTelling source mode limit).2.filterMap Event.token? =
        (readable source).take (parser.parse mode).2.consumed ∧
      ∀ tree, parse source mode limit = .ok tree →
        tokens source = .ok (parser.parse mode).2.taken.reverse := by
  obtain ⟨hparser, -⟩ := Parser.conserves_ofSource h
  refine ⟨?_, fun told p => Parser.livesTelling_iff, ?_,
    fun modes mode tree => Parser.ahead_of_parse, ?_⟩
  · intro told reading p hp
    obtain ⟨htaken, hle, hcurrent⟩ := (hp.conserves hparser).spec
    refine ⟨htaken, hle, hcurrent, ?_, ?_⟩
    · rw [hp.told_eq h, htaken]
    · intro events s hs
      obtain ⟨ts, rfl, hbehind⟩ := hs.tells
      have hdrop : (p.taken.reverse ++ ts).drop p.consumed = ts :=
        List.drop_left' List.length_reverse
      rw [hbehind, List.reverse_append, List.reverse_reverse]
      exact ⟨List.suffix_append _ _, congrArg _ hdrop.symm⟩
  · intro modes
    have hp : parser.LivesTelling (parser.told modes) (none, parser.after modes) :=
      Parser.livesTelling_iff.2 ⟨modes, rfl, rfl⟩
    rw [hp.told_eq h, ← (hp.conserves hparser).spec.1]
  · intro mode
    have hlives := parser.steps_of_parse mode
    have hconserves := hlives.conserves hparser
    constructor
    · rw [parseTelling_tokens h]
      exact hconserves.spec.1
    · intro tree htree
      have hresult : (parser.parse mode).1 = .ok tree := by
        rw [parse, h] at htree
        exact htree
      -- A source with a lexical fault has no tree, so its items are all tokens.
      obtain ⟨d, hitems, -, -⟩ := parse_eq_ok_iff.1 htree
      have hfinish : (parser.parse mode).2.ahead = .finish := Parser.ahead_of_parse hresult
      have hall : (parser.parse mode).2.taken.reverse = readable source := by
        rw [← hconserves, hfinish]
        exact (List.append_nil _).symm
      rw [tokens_eq_ok_iff, hall, readable_eq, hitems]
      congr 1
      rw [List.filterMap_map]
      exact List.filterMap_some.symm

/-- In `(?1` without room for a group, the first call stops at the question mark and tells nothing,
the second one takes the parenthesis, which is too deep, and tells of it, and the third one reads
the number to its end and tells of it. -/
theorem tokens_conserved_behind_faults :
    let paren : Token := ⟨.symbol .leftParen, "(", ⟨0, 1⟩⟩
    let one : Token := ⟨.integer ⟨1, by decide, by decide⟩, "1", ⟨2, 3⟩⟩
    let parser : Parser := ⟨.first "(?1" 0, .token paren
      [.fault ⟨.unexpectedCharacter '?', ⟨1, 2⟩⟩, .token one], []⟩
    Parser.ofSource "(?1" 0 = .ok parser ∧
      (parser.after [.expression, .expression]).consumed = 1 ∧
      [paren] = (readable "(?1").take 1 ∧ some one = (readable "(?1")[1]? ∧
      parser.told [.expression] = [] ∧
      parser.told [.expression, .expression] = [.tokenTaken paren] ∧
      parser.told [.expression, .expression, .expression] = [.tokenTaken paren, .tokenTaken one] ∧
      parser.told [.expression, .expression, .expression] =
        ((readable "(?1").take 2).map .tokenTaken ∧
      (parser.after [.expression, .expression, .expression]).ahead = .finish := by
  intro paren one parser
  have hparser : Parser.ofSource "(?1" 0 = .ok parser :=
    Parser.ofSource_of_items (a := parser.ahead) (by decide +kernel)
  obtain ⟨hmoments, hlives, htold, hends, -⟩ := tokens_conserved hparser
  obtain ⟨htaken, -, hcurrent, -, -⟩ :=
    hmoments _ none _ ((hlives _ _).2 ⟨[.expression, .expression], rfl, rfl⟩)
  exact ⟨hparser, rfl, htaken, hcurrent, rfl, rfl, rfl,
    htold [.expression, .expression, .expression],
    hends [.expression, .expression] .expression _ rfl⟩

end MiniPascal

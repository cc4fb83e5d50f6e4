/-
# Runs of the parser

A run of the parser on the items of a source is a reading of tokens, with no more groups open than
there is room for, followed by a halt: at the end, at a token that the grammar refuses, at a lexical
fault behind the token in view, or at a token that opens a group too many.  Main statements:

* `ofAhead_of_reads` : a reading with room for its groups is how a run starts;
* `exists_halts` : every run is such a reading, as far as it goes, and a halt;
* `parse_eq_ok_iff` : a source is parsed if its tokens have a derivation with room for its groups.
-/
import MiniPascal.Parser.Basic
import MiniPascal.Proofs.Items
import MiniPascal.Proofs.Parser.Soundness

namespace MiniPascal

open Config Grammar

/-! ## What is ahead -/

/-- The items ahead. -/
def Ahead.items : Ahead → List Item
  | finish => []
  | token current rest => .token current :: rest

/-- The token in view, of which there is none at the end. -/
def Ahead.current? : Ahead → Option Token
  | finish => none
  | token current _ => some current

/-- Something is ahead if the items do not start with a fault. -/
theorem Ahead.ofItems_eq_ok_iff {items : List Item} {a : Ahead} :
    Ahead.ofItems items = .ok a ↔ a.items = items := by
  constructor
  · intro h
    rcases items with _ | ⟨t | fault, rest⟩ <;> cases h <;> rfl
  · rintro rfl
    cases a <;> rfl

/-- The items ahead determine what is ahead. -/
theorem Ahead.eq_of_items {a b : Ahead} (h : a.items = b.items) : a = b := by
  have ha := ofItems_eq_ok_iff.2 h
  rw [ofItems_eq_ok_iff.2 rfl] at ha
  exact (Except.ok.inj ha).symm

/-- Where no items are ahead, the source has ended. -/
theorem Ahead.eq_finish_of_length {a : Ahead} (h : a.items.length = 0) : a = finish :=
  eq_of_items (List.eq_nil_of_length_eq_zero h)

/-- The items start with something to parse, or with a fault. -/
theorem Ahead.items_cases (items : List Item) :
    (∃ a : Ahead, a.items = items) ∨ ∃ fault rest, items = .fault fault :: rest := by
  rcases items with _ | ⟨t | fault, rest⟩
  · exact Or.inl ⟨.finish, rfl⟩
  · exact Or.inl ⟨.token t rest, rfl⟩
  · exact Or.inr ⟨fault, rest, rfl⟩

/-! ## Room for groups -/

/-- The number of groups that may still be opened. -/
def Bounds.room (bounds : Bounds) : Nat := bounds.limit - bounds.depth

/-- As long as there is room for the open groups, a move is refused if there is none behind it. -/
theorem Bounds.exceededBy_eq_true_iff {bounds : Bounds} {c : Config} {t : Token} {m : Move}
    (h : c.move? t = some m) (hc : c.groups ≤ bounds.room) :
    bounds.exceededBy m = true ↔ bounds.room < m.next.groups := by
  have hcounted := counted_of_move? h
  cases m with
  | shift next =>
    have hnext : next.groups ≤ c.groups := hcounted
    rw [exceededBy, Move.next]
    constructor
    · intro hfalse
      cases hfalse
    · omega
  | enter next =>
    have hnext : next.groups = c.groups + 1 := hcounted
    rw [exceededBy, Move.next, decide_eq_true_eq]
    unfold room at hc ⊢
    omega

namespace Parse

variable {bounds : Bounds} {taken : List Token} {c : Config} {t : Token} {m : Move}

/-! ## One step -/

section

variable {told : List Event}

theorem runTelling_of_move (h : c.move? t = some m) (a : Ahead) :
    runTelling bounds told taken c t a.items =
      if bounds.exceededBy m then (tooDeep bounds taken m.next t a, .tokenTaken t :: told)
      else ofAheadTelling bounds (.tokenTaken t :: told) (t :: taken) m.next a := by
  cases a <;> simp only [Ahead.items, runTelling, h, ofAheadTelling]

theorem runTelling_of_fault (h : c.move? t = some m) (fault : Fault) (rest : List Item) :
    runTelling bounds told taken c t (.fault fault :: rest) =
      (⟨.error fault, c.groups, .token t rest, taken⟩, told) := by
  simp only [runTelling, h]

theorem runTelling_of_refused (h : c.move? t = none) (rest : List Item) :
    runTelling bounds told taken c t rest = (refused taken c t rest, told) := by
  rcases rest with _ | ⟨u | fault, rest⟩ <;> simp only [runTelling, h]

/-- What has been told before makes no difference to the outcome. -/
theorem runTelling_fst (told : List Event) (taken : List Token) (c : Config) (t : Token)
    (items : List Item) :
    (runTelling bounds told taken c t items).1 = run bounds taken c t items := by
  unfold run
  generalize [] = silent
  induction items generalizing told silent taken c t with
  | nil =>
    unfold runTelling
    split
    · rfl
    · split <;> rfl
  | cons item rest ih =>
    cases item with
    | fault fault =>
      unfold runTelling
      split <;> rfl
    | token next =>
      unfold runTelling
      split
      · rfl
      · split
        · rfl
        · exact ih _ _ _ _ _

theorem ofAheadTelling_fst (told : List Event) (taken : List Token) (c : Config) (a : Ahead) :
    (ofAheadTelling bounds told taken c a).1 = ofAhead bounds taken c a := by
  cases a with
  | finish => rfl
  | token t rest => exact runTelling_fst told taken c t rest

end

theorem run_of_move (h : c.move? t = some m) (a : Ahead) :
    run bounds taken c t a.items =
      if bounds.exceededBy m then tooDeep bounds taken m.next t a
      else ofAhead bounds (t :: taken) m.next a := by
  rw [run, runTelling_of_move h, apply_ite Prod.fst, ofAheadTelling_fst]

theorem run_of_fault (h : c.move? t = some m) (fault : Fault) (rest : List Item) :
    run bounds taken c t (.fault fault :: rest) =
      ⟨.error fault, c.groups, .token t rest, taken⟩ := by
  rw [run, runTelling_of_fault h]

theorem run_of_refused (h : c.move? t = none) (rest : List Item) :
    run bounds taken c t rest = refused taken c t rest := by
  rw [run, runTelling_of_refused h]

/-- With room for the groups behind a token, the run goes on behind it. -/
theorem run_of_room (h : c.move? t = some m) (hc : c.groups ≤ bounds.room)
    (hm : m.next.groups ≤ bounds.room) (a : Ahead) :
    run bounds taken c t a.items = ofAhead bounds (t :: taken) m.next a := by
  rw [run_of_move h, if_neg]
  rw [Bounds.exceededBy_eq_true_iff h hc]
  omega

/-- Without room for the groups behind a token, the run ends. -/
theorem run_of_tooDeep (h : c.move? t = some m) (hc : c.groups ≤ bounds.room)
    (hm : bounds.room < m.next.groups) (a : Ahead) :
    run bounds taken c t a.items = tooDeep bounds taken m.next t a := by
  rw [run_of_move h, if_pos]
  rwa [Bounds.exceededBy_eq_true_iff h hc]

/-! ## Readings and halts -/

/-- **A reading with room for its groups is how a run starts**: the run on the tokens that are read,
with something ahead of them, is the run from behind them. -/
theorem ofAhead_of_reads {d : Config} {ts : List Token} {ds : List Nat} (h : Reads c ts ds d)
    (hds : ∀ n ∈ ds, n ≤ bounds.room) (hd : d.groups ≤ bounds.room) (taken : List Token)
    (a : Ahead) :
    ∃ b : Ahead, b.items = ts.map .token ++ a.items ∧
      ofAhead bounds taken c b = ofAhead bounds (ts.reverse ++ taken) d a := by
  induction h generalizing taken with
  | nil c => exact ⟨a, rfl, rfl⟩
  | @cons c d t m ts ds hmove hreads ih =>
    obtain ⟨b, hitems, hrun⟩ := ih (fun n hn => hds n (List.mem_cons_of_mem _ hn)) hd (t :: taken)
    have hc : c.groups ≤ bounds.room := hds _ List.mem_cons_self
    have hm : m.next.groups ≤ bounds.room := by
      cases hreads with
      | nil => exact hd
      | cons hmove' _ => exact hds _ (List.mem_cons_of_mem _ List.mem_cons_self)
    refine ⟨.token t b.items, ?_, ?_⟩
    · rw [Ahead.items, hitems]
      rfl
    · rw [ofAhead, run_of_room hmove hc hm, hrun, List.reverse_cons, List.append_assoc]
      rfl

/-- How a run ends in a configuration with something ahead. -/
inductive Halts (bounds : Bounds) (taken : List Token) (c : Config) : Ahead → Parse → Prop
  /-- The source ends. -/
  | atEnd : Halts bounds taken c .finish (atEnd bounds taken c)
  /-- The grammar refuses the token in view. -/
  | refused {t : Token} {rest : List Item} :
      c.move? t = none → Halts bounds taken c (.token t rest) (refused taken c t rest)
  /-- There is a lexical fault behind the token in view. -/
  | fault {t : Token} {m : Move} {fault : Fault} {rest : List Item} :
      c.move? t = some m →
      Halts bounds taken c (.token t (.fault fault :: rest))
        ⟨.error fault, c.groups, .token t rest, taken⟩
  /-- The token in view opens a group too many. -/
  | tooDeep {t : Token} {m : Move} {a : Ahead} :
      c.move? t = some m → bounds.room < m.next.groups →
      Halts bounds taken c (.token t a.items) (tooDeep bounds taken m.next t a)

/-- **Every run is a reading with room for its groups and a halt behind it.** -/
theorem exists_halts (taken : List Token) (a : Ahead) (hc : c.groups ≤ bounds.room) :
    ∃ ts ds d b, Reads c ts ds d ∧ (∀ n ∈ ds, n ≤ bounds.room) ∧ d.groups ≤ bounds.room ∧
      a.items = ts.map .token ++ b.items ∧
      Halts bounds (ts.reverse ++ taken) d b (ofAhead bounds taken c a) := by
  induction hn : a.items.length generalizing c taken a with
  | zero =>
    obtain rfl := Ahead.eq_finish_of_length hn
    exact ⟨[], [], c, .finish, .nil c, by simp, hc, rfl, .atEnd⟩
  | succ n ih =>
    cases a with
    | finish => cases hn
    | token t rest =>
      rw [ofAhead]
      rcases hmove : c.move? t with _ | m
      · rw [run_of_refused hmove]
        exact ⟨[], [], c, .token t rest, .nil c, by simp, hc, rfl, .refused hmove⟩
      · -- What is behind the token is looked at before the groups are.
        rcases Ahead.items_cases rest with ⟨a, rfl⟩ | ⟨fault, rest, rfl⟩
        · rcases Nat.lt_or_ge bounds.room m.next.groups with hdeep | hroom
          · rw [run_of_tooDeep hmove hc hdeep]
            exact ⟨[], [], c, .token t a.items, .nil c, by simp, hc, rfl, .tooDeep hmove hdeep⟩
          · rw [run_of_room hmove hc hroom]
            obtain ⟨ts, ds, d, b, hreads, hds, hd, hitems, hhalts⟩ :=
              ih (t :: taken) a hroom (Nat.succ.inj hn)
            refine ⟨t :: ts, c.groups :: ds, d, b, .cons hmove hreads, ?_, hd, ?_, ?_⟩
            · intro k hk
              rcases List.mem_cons.1 hk with rfl | hk
              · exact hc
              · exact hds k hk
            · rw [Ahead.items, hitems]
              rfl
            · rw [List.reverse_cons, List.append_assoc]
              exact hhalts
        · rw [run_of_fault hmove]
          exact ⟨[], [], c, .token t (.fault fault :: rest), .nil c, by simp, hc, rfl,
            .fault hmove⟩

/-- A run comes to a tree at the end of the source, if the configuration allows the end there. -/
theorem Halts.result_eq_ok_iff {a : Ahead} {p : Parse} (h : Halts bounds taken c a p)
    {tree : Tree} : p.result = .ok tree ↔ a = .finish ∧ c.tree? = some tree := by
  cases h with
  | atEnd =>
    rw [Parse.atEnd]
    cases htree : c.tree? with
    | none => simp
    | some found => simp
  | refused hmove => simp [Parse.refused]
  | fault hmove => simp
  | tooDeep hmove hdeep => simp [Parse.tooDeep]

end Parse

/-- A parser is led to the same outcome whether or not someone listens. -/
theorem Parser.parseTelling_fst (parser : Parser) (mode : Mode) :
    (parser.parseTelling mode).1 = parser.parse mode := by
  rw [parse, ← Parse.ofAheadTelling_fst []]
  rfl

/-- What a parser tells in a call is what the run tells, in order. -/
theorem Parser.parseTelling_snd (parser : Parser) (mode : Mode) :
    (parser.parseTelling mode).2 =
      (Parse.ofAheadTelling parser.bounds [] parser.taken (start mode) parser.ahead).2.reverse :=
  rfl

/-! ## Whole sources -/

/-- The bounds of the first reading of a source. -/
def Bounds.first (source : String) (limit : Nat) : Bounds := ⟨source.length, limit, 0⟩

/-- At the start of a source there is room for as many groups as the limit says. -/
theorem Bounds.room_first (source : String) (limit : Nat) : (first source limit).room = limit :=
  Nat.sub_zero limit

variable {source : String} {mode : Mode} {limit : Nat}

/-- No group is open where a source starts. -/
theorem Config.groups_start (mode : Mode) : (start mode).groups = 0 := by
  cases mode <;> rfl

/-- No group is open where a source may end. -/
theorem Config.groups_of_tree? {c : Config} {tree : Tree} (h : c.tree? = some tree) :
    c.groups = 0 := by
  unfold tree? at h
  split at h
  · rfl
  · rfl
  · cases h

/-- The parser at the start of a source that does not start with a fault. -/
theorem Parser.ofSource_of_items {a : Ahead} (h : (Cursor.ofSource source).items = a.items) :
    Parser.ofSource source limit = .ok ⟨.first source limit, a, []⟩ := by
  rw [ofSource, Ahead.ofItems_eq_ok_iff.2 h.symm, Cursor.stop_ofSource]
  rfl

/-- A source that starts with a fault has no parser. -/
theorem Parser.ofSource_of_fault {fault : Fault} {rest : List Item}
    (h : (Cursor.ofSource source).items = .fault fault :: rest) :
    Parser.ofSource source limit = .error fault := by
  rw [ofSource, h]
  rfl

/-- A source that does not start with a fault is read from its start. -/
theorem parse_of_items {a : Ahead} (h : (Cursor.ofSource source).items = a.items) :
    parse source mode limit =
      (Parse.ofAhead (.first source limit) [] (Config.start mode) a).result := by
  rw [parse, Parser.ofSource_of_items h]
  rfl

/-- A source that starts with a fault fails with it. -/
theorem parse_of_fault {fault : Fault} {rest : List Item}
    (h : (Cursor.ofSource source).items = .fault fault :: rest) :
    parse source mode limit = .error fault := by
  rw [parse, Parser.ofSource_of_fault h]
  rfl

/-- A run from the start of a source is a reading within the limit and a halt behind it. -/
theorem Parse.exists_halts_first {a : Ahead} (h : (Cursor.ofSource source).items = a.items)
    (mode : Mode) (limit : Nat) :
    ∃ ts ds c b, Reads (start mode) ts ds c ∧ (∀ n ∈ ds, n ≤ limit) ∧ c.groups ≤ limit ∧
      (Cursor.ofSource source).items = ts.map .token ++ b.items ∧
      Halts (.first source limit) ts.reverse c b
        (ofAhead (.first source limit) [] (start mode) a) := by
  have hstart : (start mode).groups ≤ (Bounds.first source limit).room := by
    rw [groups_start]
    exact Nat.zero_le _
  obtain ⟨ts, ds, c, b, hreads, hds, hc, hb, hhalts⟩ := exists_halts [] a hstart
  rw [Bounds.room_first] at hds hc
  rw [List.append_nil] at hhalts
  exact ⟨ts, ds, c, b, hreads, hds, hc, h.trans hb, hhalts⟩

/-- **A source is parsed if its tokens have a derivation with room for its groups**, to the tree of
the derivation. -/
theorem parse_eq_ok_iff {tree : Tree} :
    parse source mode limit = .ok tree ↔
      ∃ d : Derivation mode, (Cursor.ofSource source).items = d.yield.map .token ∧
        (∀ n ∈ d.depths, n ≤ limit) ∧ d.tree = tree := by
  constructor
  · intro h
    rcases Ahead.items_cases (Cursor.ofSource source).items with ⟨a, ha⟩ | ⟨fault, rest, hitems⟩
    · rw [parse_of_items ha.symm] at h
      obtain ⟨ts, ds, c, b, hreads, hds, -, hb, hhalts⟩ :=
        Parse.exists_halts_first ha.symm mode limit
      obtain ⟨rfl, htree⟩ := hhalts.result_eq_ok_iff.1 h
      obtain ⟨d, rfl, hd⟩ := accepts_start_iff.1 ⟨ds, c, hreads, htree⟩
      obtain ⟨e, hreads', -⟩ := d.reads
      obtain ⟨rfl, rfl⟩ := hreads.unique hreads'
      refine ⟨d, ?_, hds, hd⟩
      rw [hb]
      exact List.append_nil _
    · rw [parse_of_fault hitems] at h
      cases h
  · rintro ⟨d, hitems, hdepths, rfl⟩
    obtain ⟨c, hreads, htree⟩ := d.reads
    have hc : c.groups ≤ (Bounds.first source limit).room := by
      rw [groups_of_tree? htree]
      exact Nat.zero_le _
    rw [← Bounds.room_first source limit] at hdepths
    obtain ⟨a, ha, hrun⟩ := Parse.ofAhead_of_reads hreads hdepths hc [] .finish
    rw [parse_of_items (a := a), hrun, Parse.ofAhead, Parse.atEnd, htree]
    rw [hitems, ha]
    exact (List.append_nil _).symm

end MiniPascal

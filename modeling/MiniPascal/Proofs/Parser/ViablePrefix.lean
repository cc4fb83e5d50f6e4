/-
# The first token that does not belong

Some tokens are viable in a mode if a source of that mode starts with them.  The parser takes tokens
as long as they are viable, and no longer: if it refuses a token, or the end of the source, then no
source of the mode goes on like that.  Main statements:

* `viable_iff_exists_reads` : the viable tokens are those that the parser reads from the start;
* `refuses_some_of_reads`, `refuses_none_of_reads` : what the parser does not go on with is refused
  by the grammar;
* `syntactic_fault_first` : a syntactic fault is found at the first token that does not belong.
-/
import MiniPascal.Proofs.Parser.Run
import Mathlib.Control.Monad.Basic

namespace MiniPascal

open Config

namespace Grammar

/-- Some source of the mode starts with the tokens. -/
def Viable (mode : Mode) (ts : List Token) : Prop := ∃ us, Derives mode (ts ++ us)

/-- No source of the mode goes on like this behind the tokens: with the token that is found there,
or by ending there. -/
def Refuses (mode : Mode) (ts : List Token) : Option Token → Prop
  | some t => ¬ Viable mode (ts ++ [t])
  | none => ¬ Derives mode ts

variable {mode : Mode} {ts : List Token} {ds : List Nat} {c : Config}

/-- The parser reads the tokens of a source up to where it may end. -/
theorem derives_iff_exists_reads :
    Derives mode ts ↔ ∃ ds c tree, Reads (start mode) ts ds c ∧ c.tree? = some tree := by
  constructor
  · rintro ⟨d, rfl⟩
    obtain ⟨c, hreads, htree⟩ := d.reads
    exact ⟨d.depths, c, d.tree, hreads, htree⟩
  · rintro ⟨ds, c, tree, hreads, htree⟩
    obtain ⟨d, hyield, -⟩ := accepts_start_iff.1 ⟨ds, c, hreads, htree⟩
    exact ⟨d, hyield⟩

/-- **The viable tokens are those that the parser reads from the start.** -/
theorem viable_iff_exists_reads : Viable mode ts ↔ ∃ ds c, Reads (start mode) ts ds c := by
  constructor
  · rintro ⟨us, h⟩
    obtain ⟨ds, c, tree, hreads, -⟩ := derives_iff_exists_reads.1 h
    obtain ⟨as, bs, d, -, hfront, -⟩ := hreads.exists_of_append
    exact ⟨as, d, hfront⟩
  · rintro ⟨ds, c, hreads⟩
    obtain ⟨us, es, d, tree, hrest, htree⟩ := completable c
    exact ⟨us, derives_iff_exists_reads.2 ⟨ds ++ es, d, tree, hreads.trans hrest, htree⟩⟩

/-- A token that the parser does not move on with is refused by the grammar. -/
theorem refuses_some_of_reads {t : Token} (h : Reads (start mode) ts ds c) (ht : c.move? t = none) :
    Refuses mode ts (some t) := by
  intro hviable
  obtain ⟨es, d, hreads⟩ := viable_iff_exists_reads.1 hviable
  obtain ⟨as, bs, e, -, hfront, hback⟩ := hreads.exists_of_append
  obtain ⟨-, rfl⟩ := h.unique hfront
  obtain ⟨m, fs, hmove, -, -⟩ := hback.exists_move
  rw [ht] at hmove
  cases hmove

/-- An end that the parser does not stop at is refused by the grammar. -/
theorem refuses_none_of_reads (h : Reads (start mode) ts ds c) (hend : c.tree? = none) :
    Refuses mode ts none := by
  intro hderives
  obtain ⟨es, d, tree, hreads, htree⟩ := derives_iff_exists_reads.1 hderives
  obtain ⟨-, rfl⟩ := h.unique hreads
  rw [hend] at htree
  cases htree

end Grammar

open Grammar

/-- The place of what is found in a source: of a token, or of the end. -/
def placeIn (source : String) (found : Option Token) : Span :=
  match found with
  | some t => t.span
  | none => .single source.length

/-- A halt at a fault, neither a lexical one nor one about the nesting, is where the grammar refuses
what is ahead. -/
theorem Parse.Halts.refuses {source : String} {mode : Mode} {limit : Nat} {ts taken : List Token}
    {ds : List Nat} {c : Config} {a : Ahead} {p : Parse} {fault : Fault}
    (h : Halts (.first source limit) taken c a p) (hreads : Reads (start mode) ts ds c)
    (hfault : p.result = .error fault) (hlexical : .fault fault ∉ a.items)
    (hdeep : ∀ n, fault.cause ≠ .nestingTooDeep n) :
    ∃ found : Option Token, a.items[0]? = found.map .token ∧ p.taken = taken ∧
      fault.span = placeIn source found ∧ Refuses mode ts found := by
  cases h with
  | atEnd =>
    rw [Parse.atEnd] at hfault ⊢
    cases hend : c.tree? with
    | some tree =>
      rw [hend] at hfault
      cases hfault
    | none =>
      rw [hend] at hfault
      obtain rfl := Except.error.inj hfault
      exact ⟨none, rfl, rfl, rfl, refuses_none_of_reads hreads hend⟩
  | @refused t rest hmove =>
    obtain rfl := Except.error.inj hfault
    exact ⟨some t, rfl, rfl, rfl, refuses_some_of_reads hreads hmove⟩
  | @fault t m other rest hmove =>
    obtain rfl := Except.error.inj hfault
    exact absurd (List.mem_cons_of_mem _ List.mem_cons_self) hlexical
  | tooDeep hmove hroom =>
    obtain rfl := Except.error.inj hfault
    exact absurd rfl (hdeep limit)

/-- **A syntactic fault is found at the first token that does not belong**, unless it is about the
nesting: the tokens that have been taken are viable, and no source goes on with what is found behind
them, be it a token or the end. -/
theorem syntactic_fault_first {source : String} {mode : Mode} {limit : Nat} {fault : Fault}
    (h : parse source mode limit = .error fault) (hclass : fault.cause.faultClass = .syntactic)
    (hdeep : ∀ n, fault.cause ≠ .nestingTooDeep n) :
    ∃ (parser : Parser) (front : List Token) (found : Option Token),
      Parser.ofSource source limit = .ok parser ∧ (parser.parse mode).1 = .error fault ∧
      front.length = (parser.parse mode).2.consumed ∧
      (Reader.ofSource source).readings (front.length + 1) =
        (front.map some ++ [found]).map (Option.map Item.token) ∧
      fault.span = placeIn source found ∧ Viable mode front ∧ Refuses mode front found := by
  have hlexical : Item.fault fault ∉ (Cursor.ofSource source).items := by
    intro hmem
    have hother := Cursor.faultClass_of_mem_items hmem
    rw [hclass] at hother
    cases hother
  rcases Ahead.items_cases (Cursor.ofSource source).items with ⟨a, ha⟩ | ⟨other, rest, hitems⟩
  · rw [parse_of_items ha.symm] at h
    obtain ⟨front, ds, c, b, hreads, -, -, hb, hhalts⟩ :=
      Parse.exists_halts_first ha.symm mode limit
    have hbehind : Item.fault fault ∉ b.items := by
      intro hmem
      rw [hb] at hlexical
      exact hlexical (List.mem_append_right _ hmem)
    obtain ⟨found, hfound, htaken, hspan, hrefuses⟩ := hhalts.refuses hreads h hbehind hdeep
    refine ⟨_, front, found, Parser.ofSource_of_items ha.symm, h, ?_, ?_, hspan,
      viable_iff_exists_reads.2 ⟨ds, c, hreads⟩, hrefuses⟩
    · show front.length =
        (Parse.ofAhead (.first source limit) [] (start mode) a).taken.length
      rw [htaken, List.length_reverse]
    · have hitems : (Reader.ofSource source).cursor.items = front.map .token ++ b.items := hb
      have hreadings := Reader.readings_of_items hitems
      rw [List.length_map, hfound] at hreadings
      rw [hreadings]
      simp
  · rw [parse_of_fault hitems] at h
    obtain rfl := Except.error.inj h
    rw [hitems] at hlexical
    exact absurd List.mem_cons_self hlexical

/-- No program starts with `BEGIN x := (1 + )`. -/
theorem syntactic_fault_first_operand :
    ∃ (parser : Parser) (front : List Token) (found : Option Token),
      Parser.ofSource "BEGIN x := (1 + ) END." 256 = .ok parser ∧
      (parser.parse .program).1 =
        .error ⟨.mismatch .operand (some (.symbol .rightParen)), ⟨16, 17⟩⟩ ∧
      front.length = (parser.parse .program).2.consumed ∧
      (Reader.ofSource "BEGIN x := (1 + ) END.").readings (front.length + 1) =
        (front.map some ++ [found]).map (Option.map Item.token) ∧
      ⟨16, 17⟩ = placeIn "BEGIN x := (1 + ) END." found ∧
      Viable .program front ∧ Refuses .program front found :=
  syntactic_fault_first (by decide +kernel) rfl (by intro n h; cases h)

end MiniPascal

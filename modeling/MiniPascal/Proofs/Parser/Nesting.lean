/-
# The limit on the nesting

The limit on the number of open groups turns away the sources that are nested deeper, at the first
token that opens a group beyond it, and makes no other difference.  Main statements:

* `parse_eq_ok_iff_nesting` : a source is parsed within a limit if its nesting keeps to it;
* `parse_eq_nestingTooDeep` : otherwise it fails at the first group beyond the limit;
* `parse_error_mono` : any other fault stays the same under a larger limit;
* `nesting_limit_exact` : all of this together.
-/
import MiniPascal.Diagnostic
import MiniPascal.Proofs.Grammar.Openings
import MiniPascal.Proofs.Grammar.Unambiguous
import MiniPascal.Proofs.Parser.Run
import Mathlib.Control.Monad.Basic

namespace MiniPascal

open Config Grammar

variable {source : String} {mode : Mode} {limit : Nat}

/-! ## Within the limit -/

/-- The nesting is the least bound of the numbers of groups that are open in front of tokens. -/
theorem Grammar.Derivation.nesting_le_iff (d : Derivation mode) {m : Nat} :
    d.nesting ≤ m ↔ ∀ n ∈ d.depths, n ≤ m := by
  rw [d.nesting_le_iff_openings, d.openings_eq_rises]
  constructor
  · intro h
    obtain ⟨c, hreads, -⟩ := d.reads
    have hlength := hreads.length_eq
    obtain ⟨tail, htail⟩ := d.depths_eq_cons
    rw [htail] at h hlength ⊢
    exact forall_le_of_rises (Nat.lt_of_succ_le (Nat.le_of_eq hlength)) (Nat.zero_le m) h
  · intro h o ho
    exact h o.depth (depth_mem_of_mem_rises ho)

/-- **A source is parsed if its tokens have a derivation whose nesting keeps to the limit.** -/
theorem parse_eq_ok_iff_nesting {tree : Tree} :
    parse source mode limit = .ok tree ↔
      ∃ d : Derivation mode, (Cursor.ofSource source).items = d.yield.map .token ∧
        d.nesting ≤ limit ∧ d.tree = tree := by
  simp only [Derivation.nesting_le_iff]
  exact parse_eq_ok_iff

/-- A source whose tokens have a derivation is parsed to its tree, with room for its groups. -/
theorem parse_eq_ok_iff_of_items {d : Derivation mode}
    (hitems : (Cursor.ofSource source).items = d.yield.map .token) {tree : Tree} :
    parse source mode limit = .ok tree ↔ d.nesting ≤ limit ∧ d.tree = tree := by
  rw [parse_eq_ok_iff_nesting]
  constructor
  · rintro ⟨e, he, hnesting, htree⟩
    rw [hitems] at he
    obtain rfl := Derivation.yield_injective (Item.map_token_injective he)
    exact ⟨hnesting, htree⟩
  · rintro ⟨hnesting, htree⟩
    exact ⟨d, hitems, hnesting, htree⟩

/-- What is accepted within a limit is accepted within a larger one. -/
theorem parse_ok_mono {tree : Tree} (h : parse source mode limit = .ok tree) {larger : Nat}
    (hlarger : limit ≤ larger) : parse source mode larger = .ok tree := by
  obtain ⟨d, hitems, hnesting, htree⟩ := parse_eq_ok_iff_nesting.1 h
  exact parse_eq_ok_iff_nesting.2 ⟨d, hitems, Nat.le_trans hnesting hlarger, htree⟩

/-! ## Beyond the limit -/

/-- On tokens that lead to the end of a source, a run halts behind all of them or at one that opens
a group too many. -/
theorem Parse.Halts.of_reads {bounds : Bounds} {taken us : List Token} {es : List Nat}
    {c last : Config} {a : Ahead} {p : Parse} {tree : Tree} (h : Halts bounds taken c a p)
    (ha : a.items = us.map .token) (hreads : Reads c us es last) (hlast : last.tree? = some tree) :
    us = [] ∨ ∃ t vs k ks, us = t :: vs ∧ es = c.groups :: k :: ks ∧ bounds.room < k ∧
      k ≤ c.groups + 1 ∧ p.result = .error ⟨.nestingTooDeep bounds.limit, t.span⟩ := by
  cases us with
  | nil => exact Or.inl rfl
  | cons u us =>
    obtain ⟨m, fs, hmove, rfl, hrest⟩ := hreads.exists_move
    cases h with
    | atEnd => cases ha
    | refused hrefused =>
      obtain ⟨ht, -⟩ := List.cons.inj ha
      rw [Item.token.inj ht, hmove] at hrefused
      cases hrefused
    | fault hmove' =>
      obtain ⟨-, hfault⟩ := List.cons.inj ha
      exact absurd hfault.symm (Item.map_token_ne us [] _ _)
    | tooDeep hmove' hdeep =>
      obtain ⟨ht, -⟩ := List.cons.inj ha
      obtain rfl := Item.token.inj ht
      rw [hmove] at hmove'
      obtain rfl := Option.some.inj hmove'
      right
      cases hrest with
      | nil =>
        -- No group is open where a source ends.
        rw [groups_of_tree? hlast] at hdeep
        cases hdeep
      | cons hnext _ => exact ⟨_, _, _, _, rfl, rfl, hdeep, groups_next_le hmove, rfl⟩

/-- **A source that is nested beyond the limit fails at the first group beyond it.** -/
theorem parse_eq_nestingTooDeep {d : Derivation mode}
    (hitems : (Cursor.ofSource source).items = d.yield.map .token) (h : limit < d.nesting) :
    ∃ t, d.openings.find? (fun o => limit < o.depth) = some ⟨t, limit + 1⟩ ∧
      parse source mode limit = .error ⟨.nestingTooDeep limit, t.span⟩ := by
  obtain ⟨last, hreads, hlast⟩ := d.reads
  rcases Ahead.items_cases (Cursor.ofSource source).items with ⟨a, ha⟩ | ⟨fault, rest, hfault⟩
  · rw [parse_of_items ha.symm]
    obtain ⟨ts, ds, c, b, hfront, hds, hc, hb, hhalts⟩ :=
      Parse.exists_halts_first ha.symm mode limit
    rw [hitems] at hb
    obtain ⟨ts', us, hyield, hts, hus⟩ := List.map_eq_append_iff.1 hb
    obtain rfl := Item.map_token_injective hts
    rw [hyield] at hreads
    obtain ⟨as, es, c', hdepths, hfront', hback⟩ := hreads.exists_of_append
    obtain ⟨rfl, rfl⟩ := hfront.unique hfront'
    rcases hhalts.of_reads hus.symm hback hlast with rfl |
      ⟨t, vs, k, ks, rfl, rfl, hk, hle, hresult⟩
    · -- All tokens would have been read within the limit.
      cases hback
      rw [List.append_nil] at hdepths
      rw [← hdepths, ← d.nesting_le_iff] at hds
      omega
    · rw [Bounds.room_first] at hk
      obtain rfl : k = limit + 1 := by omega
      refine ⟨t, ?_, hresult⟩
      rw [d.openings_eq_rises, hyield, hdepths]
      exact find?_rises hfront.length_eq hds hc hk
  · rw [hitems] at hfault
    exact absurd hfault (Item.map_token_ne d.yield [] fault rest)

/-! ## Larger limits -/

/-- What ends a run, other than a group too many, ends it under any bounds for the same source. -/
theorem Parse.Halts.result_of_bounds {bounds : Bounds} {taken : List Token} {c : Config} {a : Ahead}
    {p : Parse} {fault : Fault} (h : Halts bounds taken c a p) (hfault : p.result = .error fault)
    (hcause : fault.cause ≠ .nestingTooDeep bounds.limit) (bounds' : Bounds)
    (hstop : bounds'.stop = bounds.stop) (taken' : List Token) :
    (ofAhead bounds' taken' c a).result = .error fault := by
  cases h with
  | atEnd =>
    rw [Parse.atEnd] at hfault
    rw [ofAhead, Parse.atEnd, hstop]
    split at hfault
    · cases hfault
    · exact hfault
  | refused hmove =>
    rw [ofAhead, run_of_refused hmove]
    exact hfault
  | fault hmove =>
    rw [ofAhead, run_of_fault hmove]
    exact hfault
  | tooDeep hmove hdeep =>
    obtain rfl := Except.error.inj hfault
    exact absurd rfl hcause

/-- **A fault that is not about the nesting stays the same under a larger limit.** -/
theorem parse_error_mono {fault : Fault} (h : parse source mode limit = .error fault)
    (hcause : fault.cause ≠ .nestingTooDeep limit) {larger : Nat} (hlarger : limit ≤ larger) :
    parse source mode larger = .error fault := by
  rcases Ahead.items_cases (Cursor.ofSource source).items with ⟨a, ha⟩ | ⟨other, rest, hitems⟩
  · rw [parse_of_items ha.symm] at h
    obtain ⟨ts, ds, c, b, hreads, hds, hc, hb, hhalts⟩ :=
      Parse.exists_halts_first ha.symm mode limit
    have hds' : ∀ n ∈ ds, n ≤ (Bounds.first source larger).room :=
      fun n hn => Nat.le_trans (hds n hn) hlarger
    obtain ⟨a', ha', hrun⟩ :=
      Parse.ofAhead_of_reads hreads hds' (Nat.le_trans hc hlarger) [] b
    rw [parse_of_items (hb.trans ha'.symm), hrun]
    exact hhalts.result_of_bounds h hcause (.first source larger) rfl _
  · rw [parse_of_fault hitems] at h ⊢
    exact h

/-! ## What the limit decides -/

/-- **What the limit on the nesting decides.**  A source that is accepted under some limit has one
derivation.  It is accepted under the limits that its nesting keeps to, always with the same tree,
and under any lower one it fails at the first group beyond that limit.  For any source, a fault that
is not about the nesting stays the same under larger limits.  Chains of operators, however long,
open no groups. -/
theorem nesting_limit_exact (source : String) (mode : Mode) :
    (∀ limit tree, parse source mode limit = .ok tree →
      ∃ d : Derivation mode, tokens source = .ok d.yield ∧ d.tree = tree ∧
        (∀ e : Derivation mode, e.yield = d.yield → e = d) ∧
        ∀ m, (parse source mode m = .ok tree ↔ d.nesting ≤ m) ∧
          (∀ other, parse source mode m = .ok other → other = tree) ∧
          (m < d.nesting → ∃ t fault,
            d.openings.find? (fun o => m < o.depth) = some ⟨t, m + 1⟩ ∧
            parse source mode m = .error fault ∧
            fault.diagnostic = ⟨.syntactic, t.span,
              "Nesting too deep (limit is " ++ m.repr ++ ")", none⟩)) ∧
    (∀ limit fault, parse source mode limit = .error fault →
      fault.cause ≠ .nestingTooDeep limit →
      ∀ larger, limit ≤ larger → parse source mode larger = .error fault) ∧
    ∀ (e : Expression) (n : Nat), e.openings n = e.operands.flatMap (Factor.openings n) := by
  refine ⟨?_, ?_, fun e n => e.openings_eq n⟩
  · intro limit tree h
    obtain ⟨d, hitems, -, rfl⟩ := parse_eq_ok_iff_nesting.1 h
    have hunique : ∀ e : Derivation mode,
        (Cursor.ofSource source).items = e.yield.map .token → e = d := by
      intro e he
      rw [hitems] at he
      exact (Derivation.yield_injective (Item.map_token_injective he)).symm
    refine ⟨d, tokens_eq_ok_iff.2 hitems, rfl, fun e he => Derivation.yield_injective he, ?_⟩
    intro m
    refine ⟨?_, ?_, ?_⟩
    · rw [parse_eq_ok_iff_nesting]
      constructor
      · rintro ⟨e, he, hnesting, -⟩
        rwa [← hunique e he]
      · exact fun hnesting => ⟨d, hitems, hnesting, rfl⟩
    · intro other hother
      obtain ⟨e, he, -, rfl⟩ := parse_eq_ok_iff_nesting.1 hother
      rw [hunique e he]
    · intro hnesting
      obtain ⟨t, hfind, hparse⟩ := parse_eq_nestingTooDeep hitems hnesting
      exact ⟨t, _, hfind, hparse, rfl⟩
  · intro limit fault h hcause larger hlarger
    exact parse_error_mono h hcause hlarger

/-- With room for one group `(1+(2))` fails at its inner parenthesis, and `()` fails alike with room
for one group or for nine. -/
theorem nesting_limit_exact_parentheses :
    (∃ (d : Derivation .expression) (t : Token) (fault : Fault),
      tokens "(1+(2))" = .ok d.yield ∧ d.openings.find? (fun o => 1 < o.depth) = some ⟨t, 2⟩ ∧
      parse "(1+(2))" .expression 1 = .error fault ∧
      fault.diagnostic = ⟨.syntactic, t.span, "Nesting too deep (limit is 1)", none⟩) ∧
    parse "()" .expression 9 =
      .error ⟨.mismatch .operand (some (.symbol .rightParen)), ⟨1, 2⟩⟩ := by
  constructor
  · obtain ⟨d, hyield, -, -, hlimit⟩ := (nesting_limit_exact "(1+(2))" .expression).1 2
      (.expr (.binary .add (.number ⟨1, by decide, by decide⟩ ⟨1, 2⟩)
        (.number ⟨2, by decide, by decide⟩ ⟨4, 5⟩) ⟨1, 5⟩)) (by decide +kernel)
    obtain ⟨hiff, -, hdeep⟩ := hlimit 1
    have hnesting : 1 < d.nesting := by
      rw [← Nat.not_le, ← hiff]
      decide +kernel
    obtain ⟨t, fault, hfind, hparse, hdiagnostic⟩ := hdeep hnesting
    exact ⟨d, t, fault, hyield, hfind, hparse, hdiagnostic⟩
  · exact (nesting_limit_exact "()" .expression).2.1 1 _ (by decide +kernel) (by decide) 9
      (by decide)

end MiniPascal

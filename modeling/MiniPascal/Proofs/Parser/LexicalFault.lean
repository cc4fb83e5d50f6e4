/-
# The first lexical fault of a source

The parser meets the first lexical fault of a source when it is about to take the token in front of
it, and only then.  So the fault is reported if the tokens in front of it are viable and leave room
for their groups, where the group that the last of them opens does not count yet; otherwise the
parser has stopped before, at a syntactic fault.  Main statements:

* `depths_take` : the groups that are open in front of viable tokens do not depend on what follows;
* `parse_of_reads`, `exists_syntactic_of_not_reads` : the two ways in which the parser ends;
* `lexical_fault_first_iff` : which of the two it is.
-/
import MiniPascal.Proofs.Parser.ViablePrefix

namespace MiniPascal

open Config Grammar

/-! ## Groups in front of viable tokens -/

/-- The groups that are open in front of tokens of a derivation are those that the parser counts. -/
theorem Grammar.Derivation.depths_take {mode : Mode} (d : Derivation mode) {ts : List Token}
    {ds : List Nat} {c : Config} (h : Reads (start mode) ts ds c) (hts : ts <+: d.yield) :
    d.depths.take ts.length = ds := by
  obtain ⟨us, hus⟩ := hts
  obtain ⟨e, hreads, -⟩ := d.reads
  rw [← hus] at hreads
  obtain ⟨as, bs, f, hdepths, hfront, -⟩ := hreads.exists_of_append
  obtain ⟨rfl, -⟩ := h.unique hfront
  rw [hdepths, ← h.length_eq, List.take_left]

/-- Viable tokens with room for their groups are what the parser reads with that room. -/
theorem Grammar.viable_and_room_iff {mode : Mode} {ts : List Token} {limit : Nat} :
    (Viable mode ts ∧ ∀ d : Derivation mode, ts <+: d.yield →
        ∀ n ∈ d.depths.take ts.length, n ≤ limit) ↔
      ∃ ds c, Reads (start mode) ts ds c ∧ ∀ n ∈ ds, n ≤ limit := by
  constructor
  · rintro ⟨hviable, hroom⟩
    obtain ⟨ds, c, hreads⟩ := viable_iff_exists_reads.1 hviable
    obtain ⟨us, d, hyield⟩ := hviable
    have hts : ts <+: d.yield := ⟨us, hyield.symm⟩
    have hds := hroom d hts
    rw [d.depths_take hreads hts] at hds
    exact ⟨ds, c, hreads, hds⟩
  · rintro ⟨ds, c, hreads, hds⟩
    refine ⟨viable_iff_exists_reads.2 ⟨ds, c, hreads⟩, ?_⟩
    intro d hts
    rwa [d.depths_take hreads hts]

/-! ## The two ways to end -/

/-- What the parser says about a token, or the end, that it refuses is a syntactic cause. -/
theorem Config.faultClass_complaint (found : Option Token) (c : Config) :
    (c.complaint found).faultClass = .syntactic := by
  cases c with
  | operand goal level outer =>
    simp only [complaint]
    split <;> rfl
  | operator goal sum term outer => cases goal <;> cases outer <;> rfl
  | _ => rfl

variable {source : String} {mode : Mode} {limit : Nat} {front : List Token} {fault : Fault}
  {rest : List Item}

/-- **A lexical fault is reported** if the tokens in front of it are read with room for their
groups. -/
theorem parse_of_reads
    (hitems : (Cursor.ofSource source).items = front.map .token ++ .fault fault :: rest)
    {ds : List Nat} {c : Config} (hreads : Reads (start mode) front ds c)
    (hds : ∀ n ∈ ds, n ≤ limit) :
    parse source mode limit = .error fault := by
  rcases List.eq_nil_or_concat front with rfl | ⟨ts, t, rfl⟩
  · exact parse_of_fault hitems
  · rw [List.concat_eq_append] at hitems hreads
    obtain ⟨as, bs, d, rfl, hfront, hlast⟩ := hreads.exists_of_append
    obtain ⟨m, es, hmove, rfl, -⟩ := hlast.exists_move
    rw [← Bounds.room_first source limit] at hds
    have has := fun n hn => hds n (List.mem_append_left _ hn)
    have hd := hds d.groups (List.mem_append_right _ List.mem_cons_self)
    -- The fault is fetched before `t` is taken, so what `t` opens is not counted.
    obtain ⟨a, ha, hrun⟩ :=
      Parse.ofAhead_of_reads hfront has hd [] (.token t (.fault fault :: rest))
    rw [parse_of_items (a := a), hrun, Parse.ofAhead, Parse.run_of_fault hmove]
    rw [hitems, ha, Ahead.items]
    simp

/-- **A syntactic fault is reported** otherwise. -/
theorem exists_syntactic_of_not_reads
    (hitems : (Cursor.ofSource source).items = front.map .token ++ .fault fault :: rest)
    (h : ¬ ∃ ds c, Reads (start mode) front ds c ∧ ∀ n ∈ ds, n ≤ limit) :
    ∃ other, parse source mode limit = .error other ∧ other.cause.faultClass = .syntactic := by
  rcases Ahead.items_cases (Cursor.ofSource source).items with ⟨a, ha⟩ | ⟨other, rest', hother⟩
  · rw [parse_of_items ha.symm]
    obtain ⟨ts, ds, c, b, hreads, hds, hc, hb, hhalts⟩ :=
      Parse.exists_halts_first ha.symm mode limit
    rw [hitems] at hb
    generalize Parse.ofAhead (.first source limit) [] (start mode) a = outcome at hhalts ⊢
    cases hhalts with
    | atEnd =>
      rw [Ahead.items, List.append_nil] at hb
      exact absurd hb.symm (Item.map_token_ne ts front fault rest)
    | refused hmove => exact ⟨_, rfl, faultClass_complaint _ _⟩
    | tooDeep hmove hdeep => exact ⟨_, rfl, rfl⟩
    | @fault t m other rest' hmove =>
      -- The parser has read all tokens in front of the fault, which is excluded.
      have hfront : front.map .token ++ .fault fault :: rest =
          (ts ++ [t]).map Item.token ++ .fault other :: rest' := by
        rw [hb, List.map_append, List.append_assoc]
        rfl
      obtain ⟨rfl, -, -⟩ := Item.front_unique hfront
      refine absurd ⟨ds ++ [c.groups], m.next, hreads.trans (.single hmove), ?_⟩ h
      intro n hn
      rcases List.mem_append.1 hn with hn | hn
      · exact hds n hn
      · rw [List.mem_singleton.1 hn]
        exact hc
  · rw [hother] at hitems
    cases front with
    | nil => exact absurd ⟨[], start mode, .nil _, by simp⟩ h
    | cons t front => cases (List.cons.inj hitems).1

/-! ## Which fault is reported -/

/-- **Whether the first lexical fault of a source is reported**, with the tokens `front` in front of
it: it is if they are viable and the groups that are open in front of each of them keep to the
limit, and otherwise the fault is a syntactic one.  Without any token in front of it, it is. -/
theorem lexical_fault_first_iff
    (h : (Reader.ofSource source).readings (front.length + 1) =
      (front.map Item.token ++ [Item.fault fault]).map some) (mode : Mode) (limit : Nat) :
    fault.cause.faultClass = .lexical ∧
    (parse source mode limit = .error fault ↔
      Viable mode front ∧ ∀ d : Derivation mode, front <+: d.yield →
        ∀ n ∈ d.depths.take front.length, n ≤ limit) ∧
    (parse source mode limit ≠ .error fault →
      ∃ other, parse source mode limit = .error other ∧ other.cause.faultClass = .syntactic) ∧
    (front = [] → parse source mode limit = .error fault) := by
  obtain ⟨rest, hitems⟩ : ∃ rest, (Cursor.ofSource source).items =
      front.map .token ++ .fault fault :: rest := by
    have hlength : (front.map Item.token ++ [Item.fault fault]).length = front.length + 1 := by simp
    rw [← hlength, Reader.readings_eq_map_some_iff] at h
    obtain ⟨rest, hrest⟩ := h
    refine ⟨rest, ?_⟩
    rw [show (Cursor.ofSource source).items = (Reader.ofSource source).cursor.items from rfl,
      ← hrest, List.append_assoc]
    rfl
  have hlexical : fault.cause.faultClass = .lexical := by
    have hmem : Item.fault fault ∈ (Cursor.ofSource source).items := by
      rw [hitems]
      exact List.mem_append_right _ List.mem_cons_self
    exact Cursor.faultClass_of_mem_items hmem
  rw [viable_and_room_iff]
  refine ⟨hlexical, ?_, ?_, ?_⟩
  · constructor
    · intro hparse
      by_contra hreads
      obtain ⟨other, hother, hclass⟩ := exists_syntactic_of_not_reads hitems hreads
      rw [hparse] at hother
      obtain rfl := Except.error.inj hother
      rw [hlexical] at hclass
      cases hclass
    · rintro ⟨ds, c, hreads, hds⟩
      exact parse_of_reads hitems hreads hds
  · intro hparse
    apply exists_syntactic_of_not_reads hitems
    rintro ⟨ds, c, hreads, hds⟩
    exact hparse (parse_of_reads hitems hreads hds)
  · rintro rfl
    exact parse_of_fault hitems

/-- What the token in front of the fault opens is not counted, so `((!` has room in one group. -/
theorem lexical_fault_first_behind_parentheses :
    let front : List Token :=
      [⟨.symbol .leftParen, "(", ⟨0, 1⟩⟩, ⟨.symbol .leftParen, "(", ⟨1, 2⟩⟩]
    let fault : Fault := ⟨.unexpectedCharacter '!', ⟨2, 3⟩⟩
    fault.cause.faultClass = .lexical ∧
    (parse "((!" .expression 1 = .error fault ↔
      Viable .expression front ∧ ∀ d : Derivation .expression, front <+: d.yield →
        ∀ n ∈ d.depths.take front.length, n ≤ 1) ∧
    (parse "((!" .expression 1 ≠ .error fault →
      ∃ other, parse "((!" .expression 1 = .error other ∧ other.cause.faultClass = .syntactic) ∧
    (front = [] → parse "((!" .expression 1 = .error fault) :=
  lexical_fault_first_iff (by decide +kernel) .expression 1

end MiniPascal

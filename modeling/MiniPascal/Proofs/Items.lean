/-
# The items of a source

A source is tokens up to its end, or tokens up to a first lexical fault.  Main statements:

* `front_unique` : the tokens in front of the first fault, and that fault, are determined;
* `tokens_eq_ok_iff`, `tokens_eq_error_iff` : which of the two it is, as reading all tokens tells;
* `readings_eq` : reading item by item gives the items, and then the end again and again;
* `faultClass_of_mem_items` : the faults of a source are lexical.
-/
import MiniPascal.Reader

namespace MiniPascal

namespace Item

/-- Tokens are determined by the items that they are. -/
theorem map_token_injective {ts us : List Token} (h : ts.map Item.token = us.map Item.token) :
    ts = us := by
  induction ts generalizing us with
  | nil => exact (List.map_eq_nil_iff.1 h.symm).symm
  | cons t ts ih =>
    cases us with
    | nil => cases h
    | cons u us =>
      obtain ⟨htoken, hrest⟩ := List.cons.inj h
      rw [Item.token.inj htoken, ih hrest]

/-- No token is a fault. -/
theorem map_token_ne (ts us : List Token) (fault : Fault) (rest : List Item) :
    ts.map Item.token ≠ us.map Item.token ++ .fault fault :: rest := by
  intro h
  have hmem : Item.fault fault ∈ ts.map Item.token := by
    rw [h]
    exact List.mem_append_right _ List.mem_cons_self
  obtain ⟨t, -, ht⟩ := List.mem_map.1 hmem
  cases ht

/-- **The tokens in front of the first fault are determined**, and so is that fault. -/
theorem front_unique {ts us : List Token} {fault other : Fault} {rest rest' : List Item}
    (h : ts.map Item.token ++ .fault fault :: rest = us.map Item.token ++ .fault other :: rest') :
    ts = us ∧ fault = other ∧ rest = rest' := by
  induction ts generalizing us with
  | nil =>
    cases us with
    | nil =>
      obtain ⟨hfault, hrest⟩ := List.cons.inj h
      exact ⟨rfl, Item.fault.inj hfault, hrest⟩
    | cons u us => cases (List.cons.inj h).1
  | cons t ts ih =>
    cases us with
    | nil => cases (List.cons.inj h).1
    | cons u us =>
      obtain ⟨htoken, htail⟩ := List.cons.inj h
      obtain ⟨rfl, hfault, hrest⟩ := ih htail
      exact ⟨by rw [Item.token.inj htoken], hfault, hrest⟩

end Item

/-- The end of a source is behind all its characters. -/
theorem Cursor.stop_ofSource (source : String) : (Cursor.ofSource source).stop = source.length := by
  rw [ofSource, stop, Nat.zero_add, String.length_toList]

/-! ## Reading all tokens -/

namespace Reader

theorem drainFrom_of_none {cursor : Cursor} (h : cursor.next? = none) (seen : List Token) :
    drainFrom seen cursor = (.ok seen.reverse, cursor.skip) := by
  rw [drainFrom]
  split <;> simp_all

theorem drainFrom_of_token {cursor after : Cursor} {t : Token}
    (h : cursor.next? = some (.token t, after)) (seen : List Token) :
    drainFrom seen cursor = drainFrom (t :: seen) after := by
  rw [drainFrom]
  split <;> simp_all

theorem drainFrom_of_fault {cursor after : Cursor} {fault : Fault}
    (h : cursor.next? = some (.fault fault, after)) (seen : List Token) :
    drainFrom seen cursor = (.error fault, after) := by
  rw [drainFrom]
  split <;> simp_all

/-- Reading all tokens comes to the end of the items, or to their first fault, and goes on behind
it. -/
theorem drainFrom_cases (seen : List Token) (cursor : Cursor) :
    (∃ (ts : List Token) (after : Cursor), cursor.items = ts.map .token ∧ after.items = [] ∧
        drainFrom seen cursor = (.ok (seen.reverse ++ ts), after)) ∨
      ∃ (ts : List Token) (fault : Fault) (after : Cursor),
        cursor.items = ts.map .token ++ .fault fault :: after.items ∧
          drainFrom seen cursor = (.error fault, after) := by
  -- Each item shortens the text ahead.
  induction hn : cursor.rest.length using Nat.strongRecOn generalizing seen cursor with
  | ind n ih =>
    rw [Cursor.items_eq]
    rcases hnext : cursor.next? with _ | ⟨t | fault, after⟩
    · have hend : cursor.skip.items = [] := by rw [Cursor.items_eq, Cursor.next?_skip hnext]
      rw [drainFrom_of_none hnext]
      exact Or.inl ⟨[], cursor.skip, rfl, hend, by rw [List.append_nil]⟩
    · rw [drainFrom_of_token hnext]
      have hlt := hn ▸ Cursor.length_rest_lt_of_next? hnext
      rcases ih _ hlt (t :: seen) after rfl with ⟨ts, last, hitems, hend, hdrain⟩ |
        ⟨ts, fault, last, hitems, hdrain⟩
      · refine Or.inl ⟨t :: ts, last, ?_, hend, ?_⟩
        · rw [List.map_cons, ← hitems]
        · rw [hdrain, List.reverse_cons, List.append_assoc]
          rfl
      · refine Or.inr ⟨t :: ts, fault, last, ?_, hdrain⟩
        rw [List.map_cons, List.cons_append, ← hitems]
    · rw [drainFrom_of_fault hnext]
      exact Or.inr ⟨[], fault, after, rfl, rfl⟩

end Reader

/-- All tokens of a source are read if nothing else is in it. -/
theorem tokens_eq_ok_iff {source : String} {ts : List Token} :
    tokens source = .ok ts ↔ (Cursor.ofSource source).items = ts.map .token := by
  rw [show tokens source = (Reader.drainFrom [] (Cursor.ofSource source)).1 from rfl]
  rcases Reader.drainFrom_cases [] (Cursor.ofSource source) with ⟨us, after, hitems, -, hdrain⟩ |
    ⟨us, fault, after, hitems, hdrain⟩
  · rw [hitems, hdrain]
    constructor
    · intro h
      rw [← Except.ok.inj h]
      rfl
    · intro h
      rw [Item.map_token_injective h]
      rfl
  · rw [hitems, hdrain]
    constructor
    · intro h
      cases h
    · intro h
      exact absurd h.symm (Item.map_token_ne ts us fault after.items)

/-- Reading all tokens fails at the first fault of the source. -/
theorem tokens_eq_error_iff {source : String} {fault : Fault} :
    tokens source = .error fault ↔
      ∃ (ts : List Token) (rest : List Item),
        (Cursor.ofSource source).items = ts.map .token ++ .fault fault :: rest := by
  rw [show tokens source = (Reader.drainFrom [] (Cursor.ofSource source)).1 from rfl]
  rcases Reader.drainFrom_cases [] (Cursor.ofSource source) with ⟨us, after, hitems, -, hdrain⟩ |
    ⟨us, other, after, hitems, hdrain⟩
  · rw [hitems, hdrain]
    constructor
    · intro h
      cases h
    · rintro ⟨ts, rest, h⟩
      exact absurd h (Item.map_token_ne us ts fault rest)
  · rw [hitems, hdrain]
    constructor
    · intro h
      rw [← Except.error.inj h]
      exact ⟨us, after.items, rfl⟩
    · rintro ⟨ts, rest, h⟩
      rw [(Item.front_unique h).2.1]

/-! ## Reading item by item -/

namespace Reader

/-- What the next `n` readings give. -/
def readings : Nat → Reader → List (Option Item)
  | 0, _ => []
  | n + 1, reader => reader.read.1 :: readings n reader.read.2

theorem read_of_next? (reader : Reader) :
    reader.read.1 = reader.cursor.items[0]? ∧
      ∀ i, reader.read.2.cursor.items[i]? = reader.cursor.items[i + 1]? := by
  rw [Cursor.items_eq reader.cursor]
  rcases hnext : reader.cursor.next? with _ | ⟨item, after⟩
  · have hread : reader.read = (none, ⟨reader.cursor.skip, reader.closed⟩) := by rw [read, hnext]
    rw [hread, Cursor.items_eq reader.cursor.skip, Cursor.next?_skip hnext]
    exact ⟨rfl, fun i => rfl⟩
  · have hread : reader.read = (some item, ⟨after, reader.closed⟩) := by rw [read, hnext]
    rw [hread]
    exact ⟨rfl, fun i => rfl⟩

/-- **Reading item by item gives the items**, and then the end again and again. -/
theorem readings_eq (n : Nat) (reader : Reader) :
    readings n reader = (List.range n).map fun i => reader.cursor.items[i]? := by
  induction n generalizing reader with
  | zero => rfl
  | succ n ih =>
    obtain ⟨hfirst, hrest⟩ := read_of_next? reader
    rw [readings, ih, hfirst, List.range_succ_eq_map, List.map_cons, List.map_map]
    congr 1
    apply List.map_congr_left
    intro i _
    exact hrest i

/-- Readings that all give items are a start of the items. -/
theorem readings_eq_map_some_iff {items : List Item} {reader : Reader} :
    readings items.length reader = items.map some ↔ items <+: reader.cursor.items := by
  rw [readings_eq, List.prefix_iff_getElem?]
  constructor
  · intro h i hi
    have hi? := congrArg (fun results => results[i]?) h
    simpa [hi] using hi?
  · intro h
    apply List.ext_getElem
    · simp
    · intro i hi hi'
      rw [List.getElem_map, List.getElem_range, List.getElem_map, h]

/-- The readings behind a start of the items begin with what comes next. -/
theorem readings_of_items {reader : Reader} {front back : List Item}
    (h : reader.cursor.items = front ++ back) :
    readings (front.length + 1) reader = front.map some ++ [back[0]?] := by
  have hfront := readings_eq_map_some_iff.2 (h ▸ List.prefix_append front back)
  rw [readings_eq] at hfront ⊢
  rw [List.range_succ, List.map_append, hfront, h, List.map_singleton,
    List.getElem?_append_right (Nat.le_refl _), Nat.sub_self]

end Reader

/-! ## Lexical faults -/

/-- Digits beyond the values are a lexical cause. -/
theorem Lexeme.faultClass_of_readInteger {digits : List Char} {cause : Cause}
    (h : readInteger digits = .error cause) : cause.faultClass = .lexical := by
  rw [readInteger] at h
  generalize Value.ofInt? (Nat.ofDigitChars 10 digits 0) = value? at h
  cases value? with
  | none =>
    cases h
    rfl
  | some value => cases h

/-- What makes characters no token is a lexical cause. -/
theorem Lexeme.faultClass_of_first {c : Char} {rest : List Char} {cause : Cause}
    (h : (first c rest).reading = .error cause) : cause.faultClass = .lexical := by
  unfold first at h
  split at h
  · unfold symbol at h
    split at h <;> cases h
  · split at h
    · unfold number at h
      split at h
      · split at h
        · cases h
        · dsimp only at h
          exact faultClass_of_readInteger h
      · dsimp only at h
        exact faultClass_of_readInteger h
    · split at h
      · cases h
      · split at h
        · cases h
          rfl
        · cases h
          rfl

/-- **The faults of a source are lexical.** -/
theorem Cursor.faultClass_of_mem_items {cursor : Cursor} {fault : Fault}
    (h : Item.fault fault ∈ cursor.items) : fault.cause.faultClass = .lexical := by
  induction hn : cursor.rest.length using Nat.strongRecOn generalizing cursor with
  | ind n ih =>
    rw [items_eq] at h
    rcases hnext : cursor.next? with _ | ⟨item, after⟩
    · rw [hnext] at h
      cases h
    · rw [hnext] at h
      rcases List.mem_cons.1 h with rfl | h
      · unfold next? at hnext
        split at hnext
        · cases hnext
        · next offset c rest _ =>
          obtain ⟨hitem, -⟩ := Prod.mk.inj (Option.some.inj hnext)
          unfold itemAt at hitem
          split at hitem
          · cases hitem
          · next cause hreading =>
            cases hitem
            exact Lexeme.faultClass_of_first hreading
      · exact ih _ (hn ▸ length_rest_lt_of_next? hnext) h rfl

end MiniPascal

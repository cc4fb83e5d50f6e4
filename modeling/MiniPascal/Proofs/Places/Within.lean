/-
# Places within the source

The items of a source lie in it, so nothing changes if offsets beyond its end are moved to the end.
What the parser makes of tokens that stay where they are stays where it is as well, and so does a
fault of the tree.  Hence no fault of a source starts beyond its end.  Main statements:

* `Cursor.clamp_of_mem_items` : the items of a source lie in it;
* `Config.Reads.relocate_eq` : what has been read of tokens that stay in place stays in place;
* `start_le_of_run` : a fault starts in the source, or at its end.
-/
import MiniPascal.Proofs.Lexical.Interleaving
import MiniPascal.Proofs.Places.Running

namespace MiniPascal

/-! ## Offsets beyond the end -/

/-- Where an offset is moved in a text that ends at `stop`. -/
def clamp (stop offset : Nat) : Nat := min offset stop

theorem monotone_clamp (stop : Nat) : Monotone (clamp stop) := by
  intro x y hxy
  unfold clamp
  omega

theorem Span.start_le_of_clamp {stop : Nat} {span : Span} (h : span.relocate (clamp stop) = span) :
    span.start ≤ stop := by
  have hstart : clamp stop span.start = span.start := congrArg Span.start h
  unfold clamp at hstart
  omega

/-! ## Items -/

/-- A lexeme that ends in the text stays where it is. -/
theorem Cursor.clamp_itemAt {offset stop : Nat} {l : Lexeme} (h : offset + l.text.length ≤ stop) :
    (itemAt offset l).relocate (clamp stop) = itemAt offset l := by
  have hspan : (Span.mk offset (offset + l.text.length)).relocate (clamp stop) =
      ⟨offset, offset + l.text.length⟩ := by
    have hstart : clamp stop offset = offset := by
      unfold clamp
      omega
    have hend : clamp stop (offset + l.text.length) = offset + l.text.length := by
      unfold clamp
      omega
    rw [Span.relocate, hstart, hend]
  unfold itemAt
  cases l.reading with
  | error cause => exact congrArg (fun span => Item.fault ⟨cause, span⟩) hspan
  | ok kind => exact congrArg (fun span => Item.token ⟨kind, String.ofList l.text, span⟩) hspan

/-- **The items of a source lie in it.** -/
theorem Cursor.clamp_of_mem_items {cursor : Cursor} {item : Item} (h : item ∈ cursor.items) :
    item.relocate (clamp cursor.stop) = item := by
  induction hn : cursor.rest.length using Nat.strongRecOn generalizing cursor with
  | ind n ih =>
    rw [items_eq] at h
    rcases hnext : cursor.next? with _ | ⟨first, after⟩
    · rw [hnext] at h
      cases h
    · rw [hnext] at h
      rcases List.mem_cons.1 h with rfl | h
      · have hskip := stop_skip cursor
        unfold next? at hnext
        split at hnext
        · cases hnext
        · next offset c rest heq =>
          cases hnext
          have hlength := congrArg List.length (Lexeme.text_append_rest c rest)
          rw [List.length_append] at hlength
          rw [heq] at hskip
          unfold stop at hskip
          refine clamp_itemAt ?_
          unfold stop
          dsimp only at hskip
          omega
      · rw [← stop_of_next? hnext]
        exact ih _ (hn ▸ length_rest_lt_of_next? hnext) h rfl

/-! ## Trees -/

/-- **What has been read of tokens that stay in place stays in place.** -/
theorem Config.Reads.relocate_eq {f : Nat → Nat} {c d : Config} {ts : List Token} {ds : List Nat}
    (h : Reads c ts ds d) (hf : Monotone f) (hc : c.relocate f = c)
    (hts : ∀ t ∈ ts, t.relocate f = t) : d.relocate f = d := by
  induction h with
  | nil c => exact hc
  | @cons c d t m ts ds hmove hreads ih =>
    obtain ⟨ht, hts⟩ := List.forall_mem_cons.1 hts
    have hmoved : c.move? t = (c.move? t).map (Move.relocate f) := by
      rw [← move?_relocate hf, hc, ht]
    rw [hmove] at hmoved
    have hm : m.relocate f = m := (Option.some.inj hmoved).symm
    have hnext : m.next.relocate f = m.next := by rw [← Move.next_relocate, hm]
    exact ih hnext hts

variable {source : String} {mode : Mode} {limit : Nat}

/-- An item of a source lies in it. -/
theorem clamp_of_mem {item : Item} (h : item ∈ (Cursor.ofSource source).items) :
    item.relocate (clamp source.length) = item := by
  rw [← Cursor.stop_ofSource]
  exact Cursor.clamp_of_mem_items h

/-- The tree of a source lies in it. -/
theorem clamp_of_parse {tree : Tree} (h : parse source mode limit = .ok tree) :
    tree.relocate (clamp source.length) = tree := by
  obtain ⟨d, hitems, -, rfl⟩ := parse_eq_ok_iff.1 h
  obtain ⟨c, hreads, htree⟩ := d.reads
  have htokens : ∀ t ∈ d.yield, t.relocate (clamp source.length) = t := by
    intro t ht
    have hmem : Item.token t ∈ (Cursor.ofSource source).items := by
      rw [hitems]
      exact List.mem_map_of_mem ht
    exact Item.token.inj (clamp_of_mem hmem)
  have hf := monotone_clamp source.length
  have hc := hreads.relocate_eq hf (Config.relocate_start _ mode) htokens
  have hmoved := Config.tree?_relocate hf c
  rw [hc, htree] at hmoved
  exact (Option.some.inj hmoved).symm

/-! ## Faults -/

/-- A halt finds a fault in the source, or at its end. -/
theorem Parse.Halts.start_le {taken : List Token} {c : Config} {a : Ahead} {outcome : Parse}
    {fault : Fault} (h : Halts (.first source limit) taken c a outcome)
    (hitems : ∀ item ∈ a.items, item ∈ (Cursor.ofSource source).items)
    (hfault : outcome.result = .error fault) : fault.span.start ≤ source.length := by
  have htoken : ∀ t, Item.token t ∈ a.items → t.span.start ≤ source.length := by
    intro t ht
    have hclamp := Item.token.inj (clamp_of_mem (hitems _ ht))
    exact Span.start_le_of_clamp (congrArg Token.span hclamp)
  cases h with
  | atEnd =>
    unfold Parse.atEnd at hfault
    split at hfault
    · cases hfault
    · cases hfault
      exact Nat.le_refl _
  | refused hmove =>
    cases hfault
    exact htoken _ List.mem_cons_self
  | fault hmove =>
    cases hfault
    have hmem := hitems _ (List.mem_cons_of_mem _ List.mem_cons_self)
    have hclamp := Item.fault.inj (clamp_of_mem hmem)
    exact Span.start_le_of_clamp (congrArg Fault.span hclamp)
  | tooDeep hmove hdeep =>
    cases hfault
    exact htoken _ List.mem_cons_self

theorem start_le_of_parse {fault : Fault} (h : parse source mode limit = .error fault) :
    fault.span.start ≤ source.length := by
  rcases Ahead.items_cases (Cursor.ofSource source).items with ⟨a, ha⟩ | ⟨other, rest, hitems⟩
  · rw [parse_of_items ha.symm] at h
    obtain ⟨ts, ds, c, b, -, -, -, hb, hhalts⟩ := Parse.exists_halts_first ha.symm mode limit
    refine hhalts.start_le (fun item hitem => ?_) h
    rw [hb]
    exact List.mem_append_right _ hitem
  · rw [parse_of_fault hitems] at h
    obtain rfl := Except.error.inj h
    have hmem : Item.fault other ∈ (Cursor.ofSource source).items := by
      rw [hitems]
      exact List.mem_cons_self
    have hclamp := Item.fault.inj (clamp_of_mem hmem)
    exact Span.start_le_of_clamp (congrArg Fault.span hclamp)

/-- **A fault starts in the source, or at its end.** -/
theorem start_le_of_run {fault : Fault} (h : run source mode limit = .error fault) :
    fault.span.start ≤ source.length := by
  rw [run] at h
  cases hparse : parse source mode limit with
  | error other =>
    rw [hparse] at h
    obtain rfl := Except.error.inj h
    exact start_le_of_parse hparse
  | ok tree =>
    rw [hparse] at h
    replace h : tree.run = .error fault := h
    -- The tree stays where it is, and so does its fault.
    have hmoved := tree.run_relocate (clamp source.length)
    rw [clamp_of_parse hparse, h] at hmoved
    have hclamp : fault = fault.relocate (clamp source.length) := Except.error.inj hmoved
    exact Span.start_le_of_clamp (congrArg Fault.span hclamp).symm

end MiniPascal

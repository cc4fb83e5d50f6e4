/-
# Calls in any order

A reader can be asked for what comes next in three ways, and the calls may be mixed in any order.
All of them go along the one sequence of results that reading item by item gives, each from where
the one before it stopped, so nothing is lost and nothing is read twice.  Only pulling knows of an
end of its own: once a pull has met the end of the source or a fault, later pulls give nothing and
leave the reader where it is.  Main statements:

* `Cursor.length_items_le` : a source has no more items than characters;
* `Reader.finish_read`, `Reader.finish_drain` : the end that a reader meets;
* `answers_of_call` : what one call gives, and where it leaves the reader;
* `interleaved_calls` : what the calls of any sequence give.
-/
import MiniPascal.Proofs.Items

namespace MiniPascal

/-! ## Calls and answers -/

/-- One of the three ways to ask a reader for what comes next. -/
inductive Call where
  /-- Ask for the next item. -/
  | read
  /-- Ask for the next item, unless pulling has come to its end. -/
  | pull
  /-- Ask for all tokens that are left. -/
  | drain
  deriving DecidableEq

/-- What a reader answers to a call. -/
inductive Answer where
  /-- An item, or the end of the source. -/
  | item (found : Option Item)
  /-- Pulling has come to its end before. -/
  | closed
  /-- All tokens that were left, or the fault among them. -/
  | all (result : Except Fault (List Token))

namespace Reader

/-- The answer to a call, and the reader behind it. -/
def answer (reader : Reader) : Call → Answer × Reader
  | .read => (.item reader.read.1, reader.read.2)
  | .pull =>
    match reader.pull? with
    | some (found, after) => (.item found, after)
    | none => (.closed, reader)
  | .drain => (.all reader.drain.1, reader.drain.2)

/-- The reader behind the calls. -/
def after (reader : Reader) : List Call → Reader
  | [] => reader
  | call :: calls => (reader.answer call).2.after calls

/-- The calls, each with its answer. -/
def history (reader : Reader) : List Call → List (Call × Answer)
  | [] => []
  | call :: calls => (call, (reader.answer call).1) :: (reader.answer call).2.history calls

/-- The result numbered `k`, from 0 on, of reading item by item. -/
def result (reader : Reader) : Nat → Option Item
  | 0 => reader.read.1
  | k + 1 => reader.read.2.result k

end Reader

/-- Some pull of the history has met the end of the source or a fault. -/
def PullingEnded (history : List (Call × Answer)) : Prop :=
  ∃ found, (Call.pull, Answer.item found) ∈ history ∧ ∀ t, found ≠ some (.token t)

/-- What is answered to a call behind the first `k` of the results `r`, and the number of results
that have been taken then.  Whether pulling has come to its end matters to pulls only. -/
inductive Answers (r : Nat → Option Item) (ended : Prop) (k : Nat) : Call → Answer → Nat → Prop
  | read : Answers r ended k .read (.item (r k)) (k + 1)
  | pull : ¬ended → Answers r ended k .pull (.item (r k)) (k + 1)
  | closed : ended → Answers r ended k .pull .closed k
  /-- The results are tokens up to the end of the source. -/
  | tokens {ts : List Token} :
    (∀ i (h : i < ts.length), r (k + i) = some (.token ts[i])) → r (k + ts.length) = none →
    Answers r ended k .drain (.all (.ok ts)) (k + ts.length + 1)
  /-- The results are tokens up to a fault. -/
  | fault {ts : List Token} {fault : Fault} :
    (∀ i (h : i < ts.length), r (k + i) = some (.token ts[i])) →
    r (k + ts.length) = some (.fault fault) →
    Answers r ended k .drain (.all (.error fault)) (k + ts.length + 1)

/-! ## The cursor -/

namespace Cursor

theorem stop_skipFrom (opened : Option Cursor) (offset : Nat) (text : List Char)
    (hopened : ∀ brace ∈ opened, brace.stop = offset + text.length) :
    (skipFrom opened offset text).stop = offset + text.length := by
  induction text generalizing opened offset with
  | nil =>
    cases opened with
    | none => rfl
    | some brace => exact hopened brace rfl
  | cons c rest ih =>
    have hlength : offset + (c :: rest).length = offset + 1 + rest.length := by
      rw [List.length_cons]
      omega
    rw [hlength] at hopened ⊢
    unfold skipFrom
    split
    · refine ih _ _ ?_
      split
      · simp
      · exact hopened
    · split
      · exact ih none _ (by simp)
      · split
        · refine ih _ _ ?_
          intro brace hbrace
          obtain rfl := Option.some.inj hbrace
          exact hlength
        · exact hlength

/-- Passing over blanks and comments stays in the source. -/
theorem stop_skip (cursor : Cursor) : cursor.skip.stop = cursor.stop :=
  stop_skipFrom none _ _ (by simp)

/-- Reading an item stays in the source. -/
theorem stop_of_next? {cursor after : Cursor} {item : Item}
    (h : cursor.next? = some (item, after)) : after.stop = cursor.stop := by
  have hskip := stop_skip cursor
  unfold next? at h
  split at h
  · cases h
  · next offset c rest heq =>
    cases h
    have hlength := congrArg List.length (Lexeme.text_append_rest c rest)
    rw [List.length_append, List.length_cons] at hlength
    rw [← hskip, heq]
    unfold stop
    dsimp only
    rw [List.length_cons]
    omega

/-- At the end of a source the cursor stands behind its last character. -/
theorem offset_skip_of_next? {cursor : Cursor} (h : cursor.next? = none) :
    cursor.skip.offset = cursor.stop := by
  have hskip := stop_skip cursor
  unfold next? at h
  split at h
  · next offset heq =>
    rw [heq] at hskip ⊢
    exact hskip
  · cases h

/-- At the end of a source nothing is met, behind its last character. -/
theorem finish_skip {cursor : Cursor} (h : cursor.next? = none) :
    cursor.skip.finish = ⟨"", .single cursor.stop⟩ := by
  rw [finish, offset_skip_of_next? h]

/-- **A source has no more items than characters.** -/
theorem length_items_le (cursor : Cursor) : cursor.items.length ≤ cursor.rest.length := by
  induction hn : cursor.rest.length using Nat.strongRecOn generalizing cursor with
  | ind n ih =>
    rw [items_eq]
    cases hnext : cursor.next? with
    | none => exact Nat.zero_le n
    | some found =>
      have hlt := hn ▸ length_rest_lt_of_next? hnext
      have hle := ih _ hlt found.2 rfl
      show found.2.items.length + 1 ≤ n
      omega

theorem length_items_ofSource_le (source : String) :
    (ofSource source).items.length ≤ source.length := by
  have hle := length_items_le (ofSource source)
  rwa [show (ofSource source).rest = source.toList from rfl, String.length_toList] at hle

end Cursor

namespace Reader

/-! ## Results -/

/-- The results are the items, and then the end again and again. -/
theorem result_eq (reader : Reader) (k : Nat) : reader.result k = reader.cursor.items[k]? := by
  induction k generalizing reader with
  | zero => exact (read_of_next? reader).1
  | succ k ih =>
    show reader.read.2.result k = _
    rw [ih]
    exact (read_of_next? reader).2 k

/-- The results are those of tokens and then of what is behind them, if the items are. -/
theorem result_of_items {reader : Reader} {ts : List Token} {back : List Item}
    (h : reader.cursor.items = ts.map .token ++ back) :
    (∀ i (hi : i < ts.length), reader.result i = some (.token ts[i])) ∧
      ∀ i, reader.result (ts.length + i) = back[i]? := by
  constructor
  · intro i hi
    rw [result_eq, h, List.getElem?_append_left (by rwa [List.length_map])]
    simp [hi]
  · intro i
    have hlength : (ts.map Item.token).length ≤ ts.length + i := by
      rw [List.length_map]
      omega
    rw [result_eq, h, List.getElem?_append_right hlength, List.length_map, Nat.add_sub_cancel_left]

/-! ## One call -/

/-- The number of results that the call takes. -/
def taken (reader : Reader) : Call → Nat
  | .read => 1
  | .pull => if reader.closed then 0 else 1
  | .drain => (reader.cursor.items.takeWhile fun item => goesOn (some item)).length + 1

theorem goesOn_eq_true_iff {found : Option Item} :
    goesOn found = true ↔ ∃ t, found = some (.token t) := by
  rcases found with _ | t | fault <;> simp [goesOn]

/-- The tokens in front of a fault, or of the end, are those that reading goes on behind. -/
theorem length_takeWhile_goesOn (ts : List Token) (back : List Item)
    (hback : goesOn back[0]? = false) :
    ((ts.map Item.token ++ back).takeWhile fun item => goesOn (some item)).length = ts.length := by
  induction ts with
  | nil =>
    cases back with
    | nil => rfl
    | cons item back =>
      have hitem : goesOn (some item) = false := hback
      simp [hitem]
  | cons t ts ih =>
    rw [List.map_cons, List.cons_append, List.takeWhile_cons_of_pos rfl, List.length_cons, ih,
      List.length_cons]

/-- A pull behind the end of pulling gives nothing. -/
theorem answer_pull_of_closed {reader : Reader} (h : reader.closed = true) :
    reader.answer .pull = (.closed, reader) := by
  unfold answer pull?
  simp only [h, if_true]

/-- A pull before that reads an item. -/
theorem answer_pull_of_open {reader : Reader} (h : ¬reader.closed = true) :
    reader.answer .pull =
      (.item reader.read.1, ⟨reader.read.2.cursor, !goesOn reader.read.1⟩) := by
  unfold answer pull?
  simp only [if_neg h]

theorem stop_drainFrom (seen : List Token) (cursor : Cursor) :
    (drainFrom seen cursor).2.stop = cursor.stop := by
  induction hn : cursor.rest.length using Nat.strongRecOn generalizing seen cursor with
  | ind n ih =>
    rcases hnext : cursor.next? with _ | ⟨t | fault, after⟩
    · rw [drainFrom_of_none hnext]
      exact cursor.stop_skip
    · have hlt := hn ▸ Cursor.length_rest_lt_of_next? hnext
      rw [drainFrom_of_token hnext, ih _ hlt _ _ rfl, Cursor.stop_of_next? hnext]
    · rw [drainFrom_of_fault hnext]
      exact Cursor.stop_of_next? hnext

/-- A reader that has read all tokens meets the end of its source. -/
theorem finish_drain {reader : Reader} {ts : List Token} (h : reader.drain.1 = .ok ts) :
    reader.drain.2.cursor.finish = ⟨"", .single reader.cursor.stop⟩ := by
  have hdrained : ∀ (seen : List Token) (cursor : Cursor),
      (drainFrom seen cursor).1 = .ok ts →
        (drainFrom seen cursor).2.finish = ⟨"", .single cursor.stop⟩ := by
    intro seen cursor hok
    induction hn : cursor.rest.length using Nat.strongRecOn generalizing seen cursor with
    | ind n ih =>
      rcases hnext : cursor.next? with _ | ⟨t | fault, after⟩
      · rw [drainFrom_of_none hnext]
        exact Cursor.finish_skip hnext
      · have hlt := hn ▸ Cursor.length_rest_lt_of_next? hnext
        rw [drainFrom_of_token hnext] at hok ⊢
        rw [ih _ hlt _ _ hok rfl, Cursor.stop_of_next? hnext]
      · rw [drainFrom_of_fault hnext] at hok
        cases hok
  exact hdrained [] reader.cursor h

/-- A reader that finds nothing more meets the end of its source. -/
theorem finish_read {reader : Reader} (h : reader.read.1 = none) :
    reader.read.2.cursor.finish = ⟨"", .single reader.cursor.stop⟩ := by
  unfold read at h ⊢
  split at h
  · next hnext => exact Cursor.finish_skip hnext
  · cases h

/-- A call leaves the reader in its source. -/
theorem stop_answer (reader : Reader) (call : Call) :
    (reader.answer call).2.cursor.stop = reader.cursor.stop := by
  have hread : reader.read.2.cursor.stop = reader.cursor.stop := by
    unfold read
    split
    · exact reader.cursor.stop_skip
    · next item after hnext => exact Cursor.stop_of_next? hnext
  cases call with
  | read => exact hread
  | pull =>
    by_cases hclosed : reader.closed = true
    · rw [answer_pull_of_closed hclosed]
    · rw [answer_pull_of_open hclosed]
      exact hread
  | drain => exact stop_drainFrom [] reader.cursor

/-- **What one call gives**, by the results that are still to come, and which of them it takes. -/
theorem answers_of_call (reader : Reader) (call : Call) :
    Answers reader.result (reader.closed = true) 0 call (reader.answer call).1
        (reader.taken call) ∧
      ∀ i, (reader.answer call).2.result i = reader.result (reader.taken call + i) := by
  have hread : ∀ i, reader.read.2.result i = reader.result (1 + i) := by
    intro i
    rw [Nat.add_comm]
    rfl
  cases call with
  | read => exact ⟨.read, hread⟩
  | pull =>
    unfold taken
    by_cases hclosed : reader.closed = true
    · rw [answer_pull_of_closed hclosed, if_pos hclosed]
      exact ⟨.closed hclosed, fun i => by rw [Nat.zero_add]⟩
    · rw [answer_pull_of_open hclosed, if_neg hclosed]
      refine ⟨.pull hclosed, fun i => ?_⟩
      rw [← hread, result_eq, result_eq]
  | drain =>
    unfold answer drain taken
    -- Reading all tokens ends at the first item that is none, and goes on behind it.
    rcases drainFrom_cases [] reader.cursor with ⟨ts, after, hitems, hend, hdrain⟩ |
      ⟨ts, fault, after, hitems, hdrain⟩
    · have hitems' : reader.cursor.items = ts.map .token ++ [] := by rw [hitems, List.append_nil]
      obtain ⟨hfront, hback⟩ := result_of_items hitems'
      rw [hdrain, hitems', length_takeWhile_goesOn ts [] rfl]
      have hlast : reader.result ts.length = none := hback 0
      constructor
      · show Answers _ _ 0 .drain (.all (.ok ts)) (ts.length + 1)
        rw [← Nat.zero_add ts.length]
        refine .tokens ?_ ?_
        · simpa only [Nat.zero_add] using hfront
        · rwa [Nat.zero_add]
      · intro i
        rw [Nat.add_assoc, hback, result_eq]
        show after.items[i]? = _
        rw [hend]
        rfl
    · obtain ⟨hfront, hback⟩ := result_of_items hitems
      rw [hdrain, hitems, length_takeWhile_goesOn ts (.fault fault :: after.items) rfl]
      have hlast : reader.result ts.length = some (.fault fault) := hback 0
      constructor
      · rw [← Nat.zero_add ts.length]
        refine .fault ?_ ?_
        · simpa only [Nat.zero_add] using hfront
        · rwa [Nat.zero_add]
      · intro i
        rw [Nat.add_assoc, hback, result_eq, Nat.add_comm 1 i]
        rfl

/-- Pulling has come to its end behind a call if it had before, or if the call is a pull that meets
the end of the source or a fault. -/
theorem closed_answer (reader : Reader) (call : Call) :
    (reader.answer call).2.closed = true ↔
      reader.closed = true ∨ PullingEnded [(call, (reader.answer call).1)] := by
  have hother : call ≠ .pull → ¬PullingEnded [(call, (reader.answer call).1)] := by
    rintro hcall ⟨found, hfound, -⟩
    rw [List.mem_singleton] at hfound
    exact hcall (Prod.mk.inj hfound).1.symm
  cases call with
  | read =>
    have hsame : reader.read.2.closed = reader.closed := by
      unfold read
      split <;> rfl
    show reader.read.2.closed = true ↔ _
    rw [hsame, or_iff_left (hother (by decide))]
  | pull =>
    by_cases hclosed : reader.closed = true
    · rw [answer_pull_of_closed hclosed]
      exact ⟨Or.inl, fun _ => hclosed⟩
    · rw [answer_pull_of_open hclosed, or_iff_right hclosed]
      show (!goesOn reader.read.1) = true ↔ _
      rw [Bool.not_eq_true', ← Bool.not_eq_true, goesOn_eq_true_iff, not_exists]
      constructor
      · exact fun h => ⟨_, List.mem_singleton.2 rfl, h⟩
      · rintro ⟨found, hfound, h⟩
        rw [List.mem_singleton] at hfound
        rwa [Answer.item.inj (Prod.mk.inj hfound).2] at h
  | drain =>
    show reader.closed = true ↔ _
    rw [or_iff_left (hother (by decide))]

/-! ## Sequences of calls -/

/-- The number of results that the calls take. -/
def count (reader : Reader) : List Call → Nat
  | [] => 0
  | call :: calls => reader.taken call + (reader.answer call).2.count calls

theorem count_concat (reader : Reader) (calls : List Call) (call : Call) :
    reader.count (calls ++ [call]) = reader.count calls + (reader.after calls).taken call := by
  induction calls generalizing reader with
  | nil =>
    show reader.taken call + 0 = 0 + reader.taken call
    omega
  | cons first calls ih =>
    show reader.taken first + (reader.answer first).2.count (calls ++ [call]) = _
    rw [ih, ← Nat.add_assoc]
    rfl

/-- Behind the calls come the results that they have not taken. -/
theorem result_after (reader : Reader) (calls : List Call) (i : Nat) :
    (reader.after calls).result i = reader.result (reader.count calls + i) := by
  induction calls generalizing reader with
  | nil =>
    show reader.result i = reader.result (0 + i)
    rw [Nat.zero_add]
  | cons call calls ih =>
    show ((reader.answer call).2.after calls).result i = _
    rw [ih, (answers_of_call reader call).2, ← Nat.add_assoc]
    rfl

/-- The calls leave the reader in its source. -/
theorem stop_after (reader : Reader) (calls : List Call) :
    (reader.after calls).cursor.stop = reader.cursor.stop := by
  induction calls generalizing reader with
  | nil => rfl
  | cons call calls ih =>
    show ((reader.answer call).2.after calls).cursor.stop = _
    rw [ih, stop_answer]

/-- Whatever has been asked for, a source ends behind its last character. -/
theorem stop_after_ofSource (source : String) (calls : List Call) :
    ((ofSource source).after calls).cursor.stop = source.length := by
  rw [stop_after, ofSource, Cursor.stop_ofSource]

/-- Pulling has come to its end behind the calls if it had before, or by one of their pulls. -/
theorem closed_after (reader : Reader) (calls : List Call) :
    (reader.after calls).closed = true ↔
      reader.closed = true ∨ PullingEnded (reader.history calls) := by
  induction calls generalizing reader with
  | nil =>
    have hnone : ¬PullingEnded [] := by
      rintro ⟨found, hfound, -⟩
      cases hfound
    show reader.closed = true ↔ _ ∨ PullingEnded []
    rw [or_iff_left hnone]
  | cons call calls ih =>
    have hsplit : PullingEnded (reader.history (call :: calls)) ↔
        PullingEnded [(call, (reader.answer call).1)] ∨
          PullingEnded ((reader.answer call).2.history calls) := by
      rw [history]
      unfold PullingEnded
      simp only [List.mem_cons, List.not_mem_nil, or_false, or_and_right, exists_or]
    show ((reader.answer call).2.after calls).closed = true ↔ _
    rw [ih, closed_answer, hsplit, or_assoc]

end Reader

/-- What is answered behind the first `k` results is what is answered at the start of the others. -/
theorem Answers.shift {r : Nat → Option Item} {ended : Prop} {k n : Nat} {call : Call}
    {answer : Answer} (h : Answers (fun i => r (k + i)) ended 0 call answer n) :
    Answers r ended k call answer (k + n) := by
  cases h with
  | read => exact .read
  | pull hopen => exact .pull hopen
  | closed hended => exact .closed hended
  | tokens hfront hend =>
    simp only [Nat.zero_add] at hfront hend ⊢
    exact .tokens hfront hend
  | fault hfront hfault =>
    simp only [Nat.zero_add] at hfront hfault ⊢
    exact .fault hfront hfault

/-! ## Pulling to the end -/

namespace Reader

theorem pullAllFrom_of_closed {reader : Reader} (h : reader.closed = true)
    (seen : List (Option Item)) : pullAllFrom seen reader = (seen.reverse, reader) := by
  have hpull : reader.pull? = none := by
    unfold pull?
    rw [if_pos h]
  rw [pullAllFrom]
  split <;> simp_all

theorem pullAllFrom_of_open {reader : Reader} (h : reader.closed = false)
    (seen : List (Option Item)) :
    pullAllFrom seen reader = pullAllFrom (reader.read.1 :: seen)
      ⟨reader.read.2.cursor, !goesOn reader.read.1⟩ := by
  have hpull : reader.pull? =
      some (reader.read.1, ⟨reader.read.2.cursor, !goesOn reader.read.1⟩) := by
    unfold pull?
    rw [if_neg (by rw [h]; exact Bool.false_ne_true)]
  rw [pullAllFrom]
  split <;> simp_all

/-- Pulling to the end gives the tokens and then the end of the source, or the tokens in front of
the first fault and then that fault. -/
theorem pullAllFrom_cases (seen : List (Option Item)) (cursor : Cursor) :
    (pullAllFrom seen ⟨cursor, false⟩).2.closed = true ∧
      ((∃ ts : List Token, cursor.items = ts.map .token ∧
          (pullAllFrom seen ⟨cursor, false⟩).1 =
            seen.reverse ++ ts.map (fun t => some (.token t)) ++ [none]) ∨
        ∃ (ts : List Token) (fault : Fault) (rest : List Item),
          cursor.items = ts.map .token ++ .fault fault :: rest ∧
            (pullAllFrom seen ⟨cursor, false⟩).1 =
              seen.reverse ++ ts.map (fun t => some (.token t)) ++ [some (.fault fault)]) := by
  induction hn : cursor.rest.length using Nat.strongRecOn generalizing seen cursor with
  | ind n ih =>
    rw [pullAllFrom_of_open rfl, Cursor.items_eq]
    unfold read
    rcases hnext : cursor.next? with _ | ⟨t | fault, after⟩
    · show (pullAllFrom (none :: seen) ⟨cursor.skip, true⟩).2.closed = true ∧ _
      rw [pullAllFrom_of_closed rfl]
      refine ⟨rfl, Or.inl ⟨[], rfl, ?_⟩⟩
      simp [goesOn, pullAllFrom_of_closed]
    · have hlt := hn ▸ Cursor.length_rest_lt_of_next? hnext
      obtain ⟨hclosed, hcases⟩ := ih _ hlt (some (.token t) :: seen) after rfl
      refine ⟨hclosed, ?_⟩
      rcases hcases with ⟨ts, hitems, hpulled⟩ | ⟨ts, fault, rest, hitems, hpulled⟩
      · refine Or.inl ⟨t :: ts, by rw [List.map_cons, ← hitems], ?_⟩
        rw [show (!goesOn (some (Item.token t))) = false from rfl, hpulled]
        simp
      · refine Or.inr ⟨t :: ts, fault, rest, ?_, ?_⟩
        · rw [List.map_cons, List.cons_append, ← hitems]
        · rw [show (!goesOn (some (Item.token t))) = false from rfl, hpulled]
          simp
    · show (pullAllFrom (some (.fault fault) :: seen) ⟨after, true⟩).2.closed = true ∧ _
      rw [pullAllFrom_of_closed rfl]
      refine ⟨rfl, Or.inr ⟨[], fault, after.items, rfl, ?_⟩⟩
      simp [goesOn, pullAllFrom_of_closed]

end Reader

/-! ## Any sequence of calls -/

open Reader in
/-- **What the calls of any sequence give.**  Of the results of reading item by item no more than
there are characters are items, and behind them is the end of the source, whose place is behind the
last character.  Calls in any order go along these results: at each moment some number of them has
been taken, and the next call answers from there on.  So pulling a fresh reader to its end gives the
tokens of the source and its end, or the tokens in front of its first fault and that fault, and then
nothing any more. -/
theorem interleaved_calls (source : String) :
    (∃ n ≤ source.length, ∀ k, (ofSource source).result k = none ↔ n ≤ k) ∧
    (∀ calls, ((ofSource source).after calls).read.1 = none →
      Span.single ((ofSource source).after calls).cursor.skip.offset =
        ⟨source.length, source.length + 1⟩) ∧
    (∃ count : List Call → Nat, count [] = 0 ∧ ∀ calls call,
      Answers (ofSource source).result (PullingEnded ((ofSource source).history calls))
        (count calls) call (((ofSource source).after calls).answer call).1
        (count (calls ++ [call]))) ∧
    (∀ ts, tokens source = .ok ts →
      (ofSource source).pullAll.1 = ts.map (fun t => some (.token t)) ++ [none]) ∧
    (∀ fault, tokens source = .error fault →
      ∃ ts : List Token, (∀ i (h : i < ts.length),
          (ofSource source).result i = some (.token ts[i])) ∧
        (ofSource source).pullAll.1 = ts.map (fun t => some (.token t)) ++ [some (.fault fault)]) ∧
    ∀ calls, ((ofSource source).pullAll.2.after calls).pull? = none := by
  have hpulled := pullAllFrom_cases [] (Cursor.ofSource source)
  refine ⟨?_, ?_, ?_, ?_, ?_, ?_⟩
  · refine ⟨_, Cursor.length_items_ofSource_le source, fun k => ?_⟩
    rw [result_eq, List.getElem?_eq_none_iff]
    rfl
  · intro calls hend
    have hnext : ((ofSource source).after calls).cursor.next? = none := by
      unfold Reader.read at hend
      split at hend
      · assumption
      · cases hend
    rw [Cursor.offset_skip_of_next? hnext, stop_after_ofSource]
    rfl
  · refine ⟨(ofSource source).count, rfl, fun calls call => ?_⟩
    have hcall := (answers_of_call ((ofSource source).after calls) call).1
    have hended : ((ofSource source).after calls).closed = true ↔
        PullingEnded ((ofSource source).history calls) := by
      rw [closed_after, or_iff_right]
      exact Bool.false_ne_true
    rw [propext hended, funext (result_after (ofSource source) calls)] at hcall
    rw [count_concat]
    exact hcall.shift
  · intro ts hts
    rw [tokens_eq_ok_iff] at hts
    rcases hpulled.2 with ⟨us, hitems, hus⟩ | ⟨us, fault, rest, hitems, -⟩
    · rw [hts] at hitems
      rw [Item.map_token_injective hitems]
      exact hus
    · rw [hts] at hitems
      exact absurd hitems (Item.map_token_ne ts us fault rest)
  · intro fault hfault
    obtain ⟨ts, rest, hts⟩ := tokens_eq_error_iff.1 hfault
    rcases hpulled.2 with ⟨us, hitems, -⟩ | ⟨us, other, rest', hitems, hus⟩
    · rw [hts] at hitems
      exact absurd hitems.symm (Item.map_token_ne us ts fault rest)
    · rw [hts] at hitems
      obtain ⟨rfl, rfl, -⟩ := Item.front_unique hitems
      exact ⟨ts, (result_of_items hts).1, hus⟩
  · intro calls
    have hclosed : ((ofSource source).pullAll.2.after calls).closed = true :=
      (closed_after _ calls).2 (Or.inl hpulled.1)
    unfold pull?
    rw [if_pos hclosed]

end MiniPascal

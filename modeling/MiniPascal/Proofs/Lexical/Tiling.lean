/-
# The tokens of a source tile it

The tokens of a source stand in it one behind another, each the longest that the lexical grammar
allows at its place, with nothing but blanks and closed comments between them; behind them the end
is met, which has no text.  Where reading fails, the tokens in front tile the source up to the
characters that make up none.  Main statements:

* `Tiling.items_eq` : a tiling of a stretch is what is read there;
* `exists_tiling` : there is a tiling up to the end, or up to characters that make up no token;
* `tokens_tile` : both for the tokens of a source.
-/
import MiniPascal.Proofs.Lexical.Interleaving
import MiniPascal.Proofs.Lexical.Trivia
import MiniPascal.Proofs.Parser.ViablePrefix

namespace MiniPascal

/-! ## Stretches of a text -/

/-- The characters of the text under the span. -/
def Span.slice (span : Span) (text : List Char) : List Char := text.extract span.start span.stop

variable {text front back : List Char} {start stop : Nat}

/-- The text from an offset on, split at a later one. -/
theorem Span.slice_append_drop (h : start ≤ stop) (text : List Char) :
    slice ⟨start, stop⟩ text ++ text.drop stop = text.drop start := by
  rw [slice, List.extract_eq_take_drop]
  obtain ⟨n, rfl⟩ := Nat.exists_eq_add_of_le h
  rw [Nat.add_sub_cancel_left, ← List.drop_drop, List.take_append_drop]

theorem Span.length_slice (h : stop ≤ text.length) :
    (slice ⟨start, stop⟩ text).length = stop - start := by
  rw [slice, List.extract_eq_take_drop, List.length_take, List.length_drop]
  dsimp only
  omega

theorem Span.slice_of_drop (h : text.drop start = front ++ back) :
    slice ⟨start, start + front.length⟩ text = front := by
  rw [slice, List.extract_eq_take_drop, h, Nat.add_sub_cancel_left, List.take_left]

theorem drop_of_drop (h : text.drop start = front ++ back) :
    text.drop (start + front.length) = back := by
  rw [← List.drop_drop, h, List.drop_left]

/-! ## Tilings -/

/-- The token stands in the text as the lexical grammar says. -/
structure Token.StandsIn (t : Token) (text : List Char) : Prop where
  /-- A token has at least one character. -/
  nonempty : t.span.start < t.span.stop
  /-- The text of the token is what stands under its span. -/
  slice : t.span.slice text = t.text.toList
  /-- The token is of its kind, and none is longer at its place. -/
  written : t.kind.Written t.text.toList (text.drop t.span.stop)

/-- The characters under the span make up no token, as the cause says. -/
structure Fault.StandsIn (fault : Fault) (text : List Char) : Prop where
  /-- There is at least one character. -/
  nonempty : fault.span.start < fault.span.stop
  /-- The characters are in the text. -/
  stop_le : fault.span.stop ≤ text.length
  /-- The characters are such as the cause says. -/
  spoils : fault.cause.Spoils (fault.span.slice text) (text.drop fault.span.stop)

/-- The stretches that the tokens leave between two offsets. -/
def gaps (start stop : Nat) : List Token → List Span
  | [] => [⟨start, stop⟩]
  | t :: ts => ⟨start, t.span.start⟩ :: gaps t.span.stop stop ts

/-- The tokens, with gaps between them, make up the stretch of the text. -/
structure Tiling (text : List Char) (start stop : Nat) (ts : List Token) : Prop where
  /-- The stretch goes forward. -/
  start_le : start ≤ stop
  /-- The stretch is in the text. -/
  stop_le : stop ≤ text.length
  /-- The tokens are in the stretch. -/
  within : ∀ t ∈ ts, start ≤ t.span.start ∧ t.span.stop ≤ stop
  /-- Each token ends where a later one starts, or before. -/
  ordered : ts.Pairwise fun t u => t.span.stop ≤ u.span.start
  /-- The tokens are as the lexical grammar says. -/
  tokens : ∀ t ∈ ts, t.StandsIn text
  /-- Nothing but blanks and closed comments is between the tokens. -/
  trivia : ∀ gap ∈ gaps start stop ts, Trivia (gap.slice text)

theorem tiling_nil_iff :
    Tiling text start stop [] ↔
      start ≤ stop ∧ stop ≤ text.length ∧ Trivia (Span.slice ⟨start, stop⟩ text) := by
  constructor
  · intro h
    exact ⟨h.start_le, h.stop_le, h.trivia _ List.mem_cons_self⟩
  · rintro ⟨hle, hstop, htrivia⟩
    exact ⟨hle, hstop, by simp, .nil, by simp, by simpa [gaps] using htrivia⟩

/-- A tiling starts with a gap and a token, and goes on behind the token. -/
theorem tiling_cons_iff {t : Token} {ts : List Token} :
    Tiling text start stop (t :: ts) ↔
      start ≤ t.span.start ∧ Trivia (Span.slice ⟨start, t.span.start⟩ text) ∧
        t.StandsIn text ∧ Tiling text t.span.stop stop ts := by
  constructor
  · intro h
    obtain ⟨hfirst, hordered⟩ := List.pairwise_cons.1 h.ordered
    obtain ⟨hstart, hstop⟩ := h.within t List.mem_cons_self
    obtain ⟨htrivia, hgaps⟩ := List.forall_mem_cons.1 h.trivia
    obtain ⟨hstands, htokens⟩ := List.forall_mem_cons.1 h.tokens
    refine ⟨hstart, htrivia, hstands, hstop, h.stop_le, ?_, hordered, htokens, hgaps⟩
    intro u hu
    exact ⟨hfirst u hu, (h.within u (List.mem_cons_of_mem _ hu)).2⟩
  · rintro ⟨hstart, htrivia, hstands, h⟩
    have hforward : start ≤ t.span.stop := Nat.le_trans hstart (Nat.le_of_lt hstands.nonempty)
    refine ⟨Nat.le_trans hforward h.start_le, h.stop_le, ?_, ?_, ?_, ?_⟩
    · refine List.forall_mem_cons.2 ⟨⟨hstart, h.start_le⟩, fun u hu => ?_⟩
      obtain ⟨hle, hstop⟩ := h.within u hu
      exact ⟨Nat.le_trans hforward hle, hstop⟩
    · exact List.pairwise_cons.2 ⟨fun u hu => (h.within u hu).1, h.ordered⟩
    · exact List.forall_mem_cons.2 ⟨hstands, h.tokens⟩
    · exact List.forall_mem_cons.2 ⟨htrivia, h.trivia⟩

/-! ## Reading along a tiling -/

namespace Cursor

/-- The cursor at the offset of the text. -/
def inText (text : List Char) (offset : Nat) : Cursor := ⟨offset, text.drop offset⟩

theorem items_at_gap (h : start ≤ stop) (htrivia : Trivia (Span.slice ⟨start, stop⟩ text))
    (hstop : stop ≤ text.length) : items (.inText text start) = items (.inText text stop) := by
  have hitems := items_trivia htrivia start (text.drop stop)
  rw [Span.slice_append_drop h, Span.length_slice hstop, Nat.add_sub_cancel' h] at hitems
  exact hitems

theorem items_at_token {t : Token} (h : t.StandsIn text) (hstop : t.span.stop ≤ text.length) :
    items (.inText text t.span.start) = .token t :: items (.inText text t.span.stop) := by
  have hle := Nat.le_of_lt h.nonempty
  have hlength : t.span.start + t.text.toList.length = t.span.stop := by
    rw [← h.slice, Span.length_slice hstop, Nat.add_sub_cancel' hle]
  have hitems := items_lexeme (.token h.written) t.span.start
  dsimp only at hitems
  rw [hlength, ← h.slice, Span.slice_append_drop hle] at hitems
  rw [Cursor.inText, hitems, itemAt]
  dsimp only
  rw [h.slice, hlength, String.ofList_toList]
  rfl

theorem items_at_fault {fault : Fault} (h : fault.StandsIn text) :
    items (.inText text fault.span.start) =
      .fault fault :: items (.inText text fault.span.stop) := by
  have hle := Nat.le_of_lt h.nonempty
  have hlength : fault.span.start + (fault.span.slice text).length = fault.span.stop := by
    rw [Span.length_slice h.stop_le, Nat.add_sub_cancel' hle]
  have hitems := items_lexeme (.fault h.spoils) fault.span.start
  dsimp only at hitems
  rw [Span.slice_append_drop hle, itemAt] at hitems
  dsimp only at hitems
  rw [hlength] at hitems
  exact hitems

end Cursor

/-- **A tiling of a stretch is what is read there.** -/
theorem Tiling.items_eq {ts : List Token} (h : Tiling text start stop ts) :
    (Cursor.inText text start).items = ts.map .token ++ (Cursor.inText text stop).items := by
  induction ts generalizing start with
  | nil =>
    obtain ⟨hle, hstop, htrivia⟩ := tiling_nil_iff.1 h
    exact Cursor.items_at_gap hle htrivia hstop
  | cons t ts ih =>
    obtain ⟨hle, htrivia, hstands, hrest⟩ := tiling_cons_iff.1 h
    have hstop : t.span.stop ≤ text.length := Nat.le_trans hrest.start_le hrest.stop_le
    rw [Cursor.items_at_gap hle htrivia (Nat.le_trans (Nat.le_of_lt hstands.nonempty) hstop),
      Cursor.items_at_token hstands hstop, ih hrest]
    rfl

/-- A lexeme of the text is a token, or characters that make up none. -/
theorem exists_standsIn {l : Lexeme} (hl : l.Fits) (h : text.drop start = l.text ++ l.rest) :
    (∃ t : Token, t.span.start = start ∧ t.span.stop ≤ text.length ∧ t.StandsIn text) ∨
      ∃ fault : Fault, fault.span.start = start ∧ fault.StandsIn text := by
  obtain ⟨c, tail, htext, -⟩ := hl.isFirst
  have hpos : 0 < l.text.length := by
    rw [htext, List.length_cons]
    exact Nat.succ_pos _
  have hstop : start + l.text.length ≤ text.length := by
    have hlength := congrArg List.length h
    rw [List.length_drop, List.length_append] at hlength
    omega
  have hslice := Span.slice_of_drop h
  have hdrop := drop_of_drop h
  cases hl with
  | @token kind lexeme behind hwritten =>
    refine Or.inl ⟨⟨kind, String.ofList lexeme, ⟨start, start + lexeme.length⟩⟩, rfl, hstop,
      Nat.lt_add_of_pos_right hpos, ?_, ?_⟩
    · rw [hslice, String.toList_ofList]
    · rwa [hdrop, String.toList_ofList]
  | @fault cause lexeme behind hspoils =>
    refine Or.inr ⟨⟨cause, ⟨start, start + lexeme.length⟩⟩, rfl, Nat.lt_add_of_pos_right hpos,
      hstop, ?_⟩
    rwa [hslice, hdrop]

/-- Behind a gap there is the end of the text, a token, or characters that make up none. -/
theorem exists_gap (h : start ≤ text.length) :
    ∃ stop, start ≤ stop ∧ stop ≤ text.length ∧ Trivia (Span.slice ⟨start, stop⟩ text) ∧
      (stop = text.length ∨
        (∃ t : Token, t.span.start = stop ∧ t.span.stop ≤ text.length ∧ t.StandsIn text) ∨
        ∃ fault : Fault, fault.span.start = stop ∧ fault.StandsIn text) := by
  obtain ⟨gap, rest, hsplit, hgap, hclear⟩ := exists_trivia (text.drop start)
  have hlength := congrArg List.length hsplit
  rw [List.length_drop, List.length_append] at hlength
  refine ⟨start + gap.length, by omega, by omega, ?_, ?_⟩
  · rwa [Span.slice_of_drop hsplit]
  · rcases hclear.exists_fits with rfl | ⟨l, hl, rfl⟩
    · rw [List.length_nil] at hlength
      exact Or.inl (by omega)
    · exact Or.inr (exists_standsIn hl (drop_of_drop hsplit))

/-- **There is a tiling up to the end, or up to characters that make up no token.** -/
theorem exists_tiling (h : start ≤ text.length) :
    ∃ ts : List Token, Tiling text start text.length ts ∨
      ∃ fault : Fault, Tiling text start fault.span.start ts ∧ fault.StandsIn text := by
  -- Each token leaves less of the text.
  induction hn : text.length - start using Nat.strongRecOn generalizing start with
  | ind n ih =>
    obtain ⟨stop, hle, hstop, htrivia, rfl | ⟨t, rfl, htext, hstands⟩ | ⟨fault, rfl, hstands⟩⟩ :=
      exists_gap h
    · exact ⟨[], Or.inl (tiling_nil_iff.2 ⟨hle, hstop, htrivia⟩)⟩
    · have hnonempty := hstands.nonempty
      obtain ⟨ts, hts⟩ := ih _ (by omega) htext rfl
      refine ⟨t :: ts, ?_⟩
      rcases hts with hts | ⟨fault, hts, hfault⟩
      · exact Or.inl (tiling_cons_iff.2 ⟨hle, htrivia, hstands, hts⟩)
      · exact Or.inr ⟨fault, tiling_cons_iff.2 ⟨hle, htrivia, hstands, hts⟩, hfault⟩
    · exact ⟨[], Or.inr ⟨fault, tiling_nil_iff.2 ⟨hle, hstop, htrivia⟩, hstands⟩⟩

/-! ## Whole sources -/

variable {source : String} {ts : List Token} {fault : Fault}

/-- A tiling of a whole source is what is read. -/
theorem Tiling.items_source (h : Tiling source.toList 0 stop ts) :
    (Cursor.ofSource source).items = ts.map .token ++ (Cursor.inText source.toList stop).items :=
  h.items_eq

theorem items_at_end (source : String) :
    (Cursor.inText source.toList source.length).items = [] := by
  rw [Cursor.inText, ← String.length_toList, List.drop_length]
  exact Cursor.items_nil _

/-- A source is tiled up to its end, or up to its first fault. -/
theorem exists_tiling_source (source : String) :
    ∃ ts : List Token, Tiling source.toList 0 source.length ts ∨
      ∃ fault : Fault, Tiling source.toList 0 fault.span.start ts ∧
        fault.StandsIn source.toList := by
  obtain ⟨ts, hts⟩ := exists_tiling (Nat.zero_le source.toList.length)
  rw [String.length_toList] at hts
  exact ⟨ts, hts⟩

/-- **The tokens of a source are those that tile it.** -/
theorem tokens_eq_ok_iff_tiling :
    tokens source = .ok ts ↔ Tiling source.toList 0 source.length ts := by
  rw [tokens_eq_ok_iff]
  constructor
  · intro h
    obtain ⟨us, hus | ⟨fault, hus, hfault⟩⟩ := exists_tiling_source source
    · rw [hus.items_source, items_at_end, List.append_nil] at h
      rwa [← Item.map_token_injective h]
    · have hrest := Cursor.items_at_fault hfault
      rw [hus.items_source, hrest] at h
      exact absurd h.symm (Item.map_token_ne ts us fault _)
  · intro h
    rw [h.items_source, items_at_end, List.append_nil]

/-- **Reading all tokens fails at characters that make up no token, behind a tiling.** -/
theorem tokens_eq_error_iff_tiling :
    tokens source = .error fault ↔
      ∃ ts, Tiling source.toList 0 fault.span.start ts ∧ fault.StandsIn source.toList := by
  rw [tokens_eq_error_iff]
  constructor
  · rintro ⟨ts, rest, h⟩
    obtain ⟨us, hus | ⟨other, hus, hother⟩⟩ := exists_tiling_source source
    · rw [hus.items_source, items_at_end, List.append_nil] at h
      exact absurd h (Item.map_token_ne us ts fault rest)
    · have hrest := Cursor.items_at_fault hother
      rw [hus.items_source, hrest] at h
      obtain ⟨rfl, rfl, -⟩ := Item.front_unique h
      exact ⟨us, hus, hother⟩
  · rintro ⟨ts, hts, hfault⟩
    have hrest := Cursor.items_at_fault hfault
    exact ⟨ts, _, by rw [hts.items_source, hrest]⟩

/-- **The tokens of a source tile it.**  They are the ones that stand in it as the lexical grammar
says, with nothing but blanks and closed comments around them; reading one by one gives them, and
then the end again and again.  The end has no text, and its place is behind the last character: so
it is met behind all tokens, by any reading that finds nothing more, and so the parser complains of
it.  Where reading fails, the tokens in front of the fault tile the source up to it, and there are
characters that make up no token. -/
theorem tokens_tile (source : String) :
    (∀ ts, tokens source = .ok ts ↔ Tiling source.toList 0 source.length ts) ∧
    (∀ ts, tokens source = .ok ts →
      (∀ n, (Reader.ofSource source).readings n =
        (List.range n).map fun i => ts[i]?.map Item.token) ∧
      (Reader.ofSource source).drain.2.cursor.finish =
        ⟨"", ⟨source.length, source.length + 1⟩⟩ ∧
      placeIn source none = ⟨source.length, source.length + 1⟩) ∧
    (∀ calls, ((Reader.ofSource source).after calls).read.1 = none →
      ((Reader.ofSource source).after calls).read.2.cursor.finish =
        ⟨"", ⟨source.length, source.length + 1⟩⟩) ∧
    ∀ fault, tokens source = .error fault ↔
      ∃ ts, Tiling source.toList 0 fault.span.start ts ∧ fault.StandsIn source.toList := by
  refine ⟨fun ts => tokens_eq_ok_iff_tiling, fun ts h => ⟨fun n => ?_, ?_, rfl⟩, ?_,
    fun fault => tokens_eq_error_iff_tiling⟩
  · rw [Reader.readings_eq]
    refine List.map_congr_left fun i _ => ?_
    rw [← List.getElem?_map, ← tokens_eq_ok_iff.1 h]
    rfl
  · rw [Reader.finish_drain h, Reader.ofSource, Cursor.stop_ofSource]
    rfl
  · intro calls hnone
    rw [Reader.finish_read hnone, Reader.stop_after_ofSource]
    rfl

/-- In `a:=5.{b}` the dot is a token of its own, since no digit follows it; in `5.5 {` the brace
that nothing closes stands behind the one token. -/
theorem tokens_tile_dot :
    Tiling "a:=5.\x7bb\x7d".toList 0 "a:=5.\x7bb\x7d".length
      [⟨.identifier, "a", ⟨0, 1⟩⟩, ⟨.symbol .assign, ":=", ⟨1, 3⟩⟩,
        ⟨.integer ⟨5, by decide, by decide⟩, "5", ⟨3, 4⟩⟩, ⟨.symbol .dot, ".", ⟨4, 5⟩⟩] ∧
    (∀ n, (Reader.ofSource "+").readings n =
      (List.range n).map fun i => [⟨.symbol .plus, "+", ⟨0, 1⟩⟩][i]?.map Item.token) ∧
    ∃ ts, Tiling "5.5 \x7b".toList 0 4 ts ∧
      Fault.StandsIn ⟨.unterminatedComment, ⟨4, 5⟩⟩ "5.5 \x7b".toList :=
  ⟨((tokens_tile "a:=5.\x7bb\x7d").1 _).1 (by decide +kernel),
    ((tokens_tile "+").2.1 _ (by decide +kernel)).1,
    ((tokens_tile "5.5 \x7b").2.2.2 ⟨.unterminatedComment, ⟨4, 5⟩⟩).1 (by decide +kernel)⟩

end MiniPascal

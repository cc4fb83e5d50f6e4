/-
# Reading moves on

A reading that starts in front of the end of a source takes the reader strictly forward, whatever it
gives: a token, a lexical fault, or the end of the source behind blanks and comments.  So the reader
stands at the end after at most as many readings as the source has characters, and there it stays.
Main statements:

* `offset_lt_offset_read` : what one reading does to a reader in front of the end;
* `offset_after_reads` : where enough readings take the reader.
-/
import MiniPascal.Proofs.Lexical.Interleaving

namespace MiniPascal

/-- A cursor never stands behind the end of its source. -/
theorem Cursor.offset_le_stop (cursor : Cursor) : cursor.offset ≤ cursor.stop :=
  Nat.le_add_right _ _

namespace Reader

variable (reader : Reader)

/-! ## One reading -/

/-- A reading takes at least one character off the text ahead, as long as there is one. -/
theorem length_rest_read_le :
    reader.read.2.cursor.rest.length ≤ reader.cursor.rest.length - 1 := by
  unfold read
  split
  · next hnext =>
    -- The blanks and comments ahead were all that was left.
    have hoffset := Cursor.offset_skip_of_next? hnext
    rw [← reader.cursor.stop_skip, Cursor.stop] at hoffset
    show reader.cursor.skip.rest.length ≤ _
    omega
  · next item after hnext => exact Nat.le_sub_one_of_lt (Cursor.length_rest_lt_of_next? hnext)

/-- **A reading in front of the end takes the reader strictly forward**, whatever it gives. -/
theorem offset_lt_offset_read (h : reader.cursor.offset < reader.cursor.stop) :
    reader.cursor.offset < reader.read.2.cursor.offset := by
  have hrest := reader.length_rest_read_le
  have hstop : reader.read.2.cursor.stop = reader.cursor.stop := reader.stop_answer .read
  unfold Cursor.stop at h hstop
  omega

/-! ## Any number of readings -/

/-- Each of `k` readings takes at least one character off the text ahead. -/
theorem length_rest_after_le (k : Nat) :
    (reader.after (List.replicate k .read)).cursor.rest.length ≤
      reader.cursor.rest.length - k := by
  induction k generalizing reader with
  | zero => exact Nat.le_refl _
  | succ k ih =>
    have hread := reader.length_rest_read_le
    have hafter := ih reader.read.2
    show (reader.read.2.after (List.replicate k .read)).cursor.rest.length ≤ _
    omega

/-- **As many readings as there are characters ahead take the reader to the end.** -/
theorem offset_after_reads {k : Nat} (h : reader.cursor.rest.length ≤ k) :
    (reader.after (List.replicate k .read)).cursor.offset = reader.cursor.stop := by
  have hrest := reader.length_rest_after_le k
  have hstop := reader.stop_after (List.replicate k .read)
  unfold Cursor.stop at hstop ⊢
  omega

end Reader

/-- Three readings of `a!{b} ` give a name, a fault and the end of the source. -/
example : (List.range 4).map (fun k =>
    ((Reader.ofSource "a!{b} ").after (List.replicate k .read)).cursor.offset) = [0, 1, 2, 6] := by
  decide +kernel

end MiniPascal

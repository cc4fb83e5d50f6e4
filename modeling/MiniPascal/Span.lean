/-
# Spans

A span is a stretch of a source text, from the offset of its first character up to the offset behind
its last one.  Offsets count characters.
-/

namespace MiniPascal

/-- The stretch from `start` up to, and without, `stop`. -/
structure Span where
  /-- The offset of the first character. -/
  start : Nat
  /-- The offset behind the last character. -/
  stop : Nat
  deriving DecidableEq

namespace Span

/-- The span of the one character at the offset. -/
def single (offset : Nat) : Span := ⟨offset, offset + 1⟩

/-- The empty span at the offset. -/
def emptyAt (offset : Nat) : Span := ⟨offset, offset⟩

/-- The least span that covers both. -/
def join (s t : Span) : Span := ⟨min s.start t.start, max s.stop t.stop⟩

end Span

end MiniPascal

/-
# The mode of a line

A session looks at the first token of a trimmed line to decide in which mode the line is read.  No
program starts with what an expression starts with, so the other mode never accepts the line, and
the blanks that were trimmed make no difference but for the places.  Main statements:

* `Mode.detect_of_parse` : a source that is accepted in a mode asks for that mode;
* `Line.parse_trimmed`, `Line.run_trimmed` : what trimming changes;
* `mode_decided` : the mode of a line is never the wrong one.
-/
import MiniPascal.Proofs.Lexical.Trimming
import MiniPascal.Proofs.Places.Within

namespace MiniPascal

open Config Grammar

variable {source : String} {mode : Mode} {limit : Nat}

/-! ## First tokens -/

/-- A source that is accepted starts with a token that its mode may start with. -/
theorem exists_start_of_parse {tree : Tree} (h : parse source mode limit = .ok tree) :
    ∃ t rest m, (Cursor.ofSource source).items = .token t :: rest ∧
      (start mode).move? t = some m := by
  obtain ⟨d, hitems, -, -⟩ := parse_eq_ok_iff.1 h
  obtain ⟨c, hreads, htree⟩ := d.reads
  cases hyield : d.yield with
  | nil =>
    rw [hyield] at hreads
    obtain ⟨-, rfl⟩ := hreads.unique (.nil _)
    cases mode <;> cases htree
  | cons t ts =>
    rw [hyield] at hreads hitems
    obtain ⟨m, es, hmove, -, -⟩ := hreads.exists_move
    exact ⟨t, ts.map .token, m, hitems, hmove⟩

/-- **A source that is accepted in a mode asks for that mode.** -/
theorem Mode.detect_of_parse {tree : Tree} (h : parse source mode limit = .ok tree) :
    Mode.detect source = mode := by
  obtain ⟨t, rest, m, hitems, hmove⟩ := exists_start_of_parse h
  cases mode with
  | program =>
    have hkind := (move?_begin_eq_some_iff.1 hmove).1
    exact detect_eq_program_iff.2 ⟨t, rest, hitems, hkind⟩
  | expression =>
    cases hdetect : Mode.detect source with
    | expression => rfl
    | program =>
      obtain ⟨u, rest', hitems', hkind⟩ := detect_eq_program_iff.1 hdetect
      rw [hitems] at hitems'
      obtain rfl := Item.token.inj (List.cons.inj hitems').1
      -- No operand starts with `BEGIN`.
      rcases operand?_eq_some_iff.1 hmove with ⟨sign, hsign, -⟩ | ⟨hparen, -⟩ | ⟨value, hvalue, -⟩ |
        ⟨hname, -⟩
      · rw [hkind] at hsign
        cases sign <;> cases hsign
      · rw [hkind] at hparen
        cases hparen
      · rw [hkind] at hvalue
        cases hvalue
      · rw [hkind] at hname
        cases hname

/-- A source that is not accepted is not run. -/
theorem run_of_parse {fault : Fault} (h : parse source mode limit = .error fault) :
    run source mode limit = .error fault := by
  rw [run, h]
  rfl

/-! ## Trimmed lines -/

namespace Line

variable {line : String}

theorem detect_trimmed (line : String) : Mode.detect (trimmed line) = Mode.detect line :=
  (Mode.detect_relocate (items_trimmed line)).symm

/-- A trimmed line has the same items without their places. -/
theorem items_unplaced (line : String) :
    (Cursor.ofSource line).items.map (Item.relocate fun _ => 0) =
      (Cursor.ofSource (trimmed line)).items.map (Item.relocate fun _ => 0) := by
  have hcomp : ∀ f, (Item.relocate fun _ => 0) ∘ Item.relocate f = Item.relocate fun _ => 0 := by
    intro f
    funext item
    cases item <;> rfl
  have hitems := congrArg (List.map (Item.relocate fun _ => 0)) (items_trimmed line)
  rwa [List.map_map, List.map_map, hcomp, hcomp] at hitems

/-- What is at fault in a trimmed line for the same cause as in the line, at its place there. -/
structure Moved (line : String) (fault other : Fault) : Prop where
  /-- The cause is the same. -/
  cause_eq : other.cause = fault.cause
  /-- The start is moved by the blanks in front, and not beyond the end. -/
  start_eq : other.span.start = min (trimmed line).length (fault.span.start - indent line)

theorem moved_of_relocate {fault other : Fault}
    (h : other.relocate (trimOffset 0 (trimmed line).length) =
      fault.relocate (trimOffset (indent line) (trimmed line).length))
    (hle : other.span.start ≤ (trimmed line).length) : Moved line fault other := by
  refine ⟨Fault.cause_of_relocate h, ?_⟩
  have hstart := congrArg (fun fault => fault.span.start) h
  replace hstart : trimOffset 0 (trimmed line).length other.span.start =
      trimOffset (indent line) (trimmed line).length fault.span.start := hstart
  unfold trimOffset at hstart
  omega

/-- **What a trimmed line is parsed to**: the tree of the line at other places, or its fault. -/
theorem parse_trimmed (line : String) (mode : Mode) (limit : Nat) :
    (∀ tree, parse line mode limit = .ok tree →
      ∃ other, parse (trimmed line) mode limit = .ok other ∧ other.unplaced = tree.unplaced) ∧
    ∀ fault, parse line mode limit = .error fault →
      ∃ other, parse (trimmed line) mode limit = .error other ∧ Moved line fault other := by
  constructor
  · intro tree htree
    have hstop : (Span.single line.length).relocate (fun _ => 0) =
        (Span.single (trimmed line).length).relocate fun _ => 0 := by
      show Span.mk 0 0 = Span.mk 0 0
      rfl
    have hparse :=
      parse_relocate monotone_const monotone_const hstop (items_unplaced line) mode limit
    exact relocateResult_ok hparse htree
  · intro fault hfault
    have hparse := parse_relocate (monotone_trimOffset _ _) (monotone_trimOffset _ _)
      (stop_trimmed line) (items_trimmed line) mode limit
    obtain ⟨other, hother, hmoved⟩ := relocateResult_error hparse hfault
    exact ⟨other, hother, moved_of_relocate hmoved (start_le_of_parse hother)⟩

/-- **What a trimmed line comes to**: the same outcome as the line, or its fault. -/
theorem run_trimmed (line : String) (mode : Mode) (limit : Nat) :
    (∀ outcome, run line mode limit = .ok outcome → run (trimmed line) mode limit = .ok outcome) ∧
    ∀ fault, run line mode limit = .error fault →
      ∃ other, run (trimmed line) mode limit = .error other ∧ Moved line fault other := by
  have hrun := run_relocate (monotone_trimOffset _ _) (monotone_trimOffset _ _)
    (stop_trimmed line) (items_trimmed line) mode limit
  constructor
  · intro outcome houtcome
    exact relocateFault_ok hrun houtcome
  · intro fault hfault
    obtain ⟨other, hother, hmoved⟩ := relocateFault_error hrun hfault
    exact ⟨other, hother, moved_of_relocate hmoved (start_le_of_run hother)⟩

end Line

/-- **The mode of a line is never the wrong one.**  A session runs the trimmed line, in the mode
that it asks for.  If the line is accepted in some mode, under whatever limit on the nesting, it
asks for that mode; so no line is accepted in both modes, and one that is not accepted in the mode
it asks for is accepted in neither.  Trimming makes no difference to what is accepted, to the
outcome, and to the cause of a fault, whose start is moved by the blanks in front and not beyond the
end.  A line that starts with a lexical fault fails with it in both modes. -/
theorem mode_decided (line : String) :
    (∀ text, Line.ofText line = .source text → text = Line.trimmed line) ∧
    (∀ mode limit tree, parse line mode limit = .ok tree →
      Mode.detect (Line.trimmed line) = mode) ∧
    (∀ mode limit tree mode' limit' tree', parse line mode limit = .ok tree →
      parse line mode' limit' = .ok tree' → mode = mode') ∧
    (∀ limit fault, parse line (Mode.detect (Line.trimmed line)) limit = .error fault →
      ∀ mode, ∃ other, parse line mode limit = .error other) ∧
    (∀ mode limit,
      (∀ tree, parse line mode limit = .ok tree →
        ∃ other, parse (Line.trimmed line) mode limit = .ok other ∧
          other.unplaced = tree.unplaced) ∧
      (∀ fault, parse line mode limit = .error fault →
        ∃ other, parse (Line.trimmed line) mode limit = .error other ∧
          Line.Moved line fault other) ∧
      (∀ outcome, run line mode limit = .ok outcome →
        run (Line.trimmed line) mode limit = .ok outcome) ∧
      ∀ fault, run line mode limit = .error fault →
        ∃ other, run (Line.trimmed line) mode limit = .error other ∧ Line.Moved line fault other) ∧
    ∀ fault, (Reader.ofSource line).read.1 = some (.fault fault) →
      ∀ mode limit, parse line mode limit = .error fault ∧ run line mode limit = .error fault := by
  have hdetect : ∀ mode limit tree, parse line mode limit = .ok tree →
      Mode.detect (Line.trimmed line) = mode := by
    intro mode limit tree h
    rw [Line.detect_trimmed]
    exact Mode.detect_of_parse h
  refine ⟨fun text => Line.eq_trimmed_of_source, hdetect, ?_, ?_, ?_, ?_⟩
  · intro mode limit tree mode' limit' tree' h h'
    rw [← hdetect mode limit tree h, hdetect mode' limit' tree' h']
  · intro limit fault h mode
    cases hmode : parse line mode limit with
    | error other => exact ⟨other, rfl⟩
    | ok tree =>
      rw [hdetect mode limit tree hmode, hmode] at h
      cases h
  · intro mode limit
    obtain ⟨htree, hfault⟩ := Line.parse_trimmed line mode limit
    obtain ⟨houtcome, hfailure⟩ := Line.run_trimmed line mode limit
    exact ⟨htree, hfault, houtcome, hfailure⟩
  · intro fault hread mode limit
    rw [(Reader.read_of_next? _).1] at hread
    obtain ⟨rest, hitems⟩ : ∃ rest, (Cursor.ofSource line).items = .fault fault :: rest := by
      replace hread : (Cursor.ofSource line).items[0]? = some (.fault fault) := hread
      cases hitems : (Cursor.ofSource line).items with
      | nil =>
        rw [hitems] at hread
        cases hread
      | cons item rest =>
        rw [hitems] at hread
        obtain rfl := Option.some.inj hread
        exact ⟨rest, rfl⟩
    have hparse : parse line mode limit = .error fault := parse_of_fault hitems
    exact ⟨hparse, run_of_parse hparse⟩

/-- The line ` BEGIN END.` asks for a program.  In `  ( ` an operand is missing at the end, which
comes right behind the parenthesis once the line is trimmed.  And `? 1` fails at its first
character. -/
theorem mode_decided_lines :
    Mode.detect (Line.trimmed " BEGIN END.") = .program ∧
      (∃ other, parse (Line.trimmed "  ( ") .expression 9 = .error other ∧
        other.cause = .mismatch .operand none ∧ other.span.start = 1) ∧
      (∃ other, parse "  ( " .program 9 = .error other) ∧
      parse "? 1" .program 0 = .error ⟨.unexpectedCharacter '?', ⟨0, 1⟩⟩ := by
  have hparse : parse "  ( " .expression 9 = .error ⟨.mismatch .operand none, ⟨4, 5⟩⟩ := by
    decide +kernel
  have hdetect : Mode.detect (Line.trimmed "  ( ") = .expression := by decide +kernel
  have htrimmed : (Line.trimmed "  ( ").length = 1 := by decide +kernel
  refine ⟨?_, ?_, ?_, ?_⟩
  · obtain ⟨-, hmode, -⟩ := mode_decided " BEGIN END."
    have hok : (parse " BEGIN END." .program 1).toBool = true := by decide +kernel
    cases htree : parse " BEGIN END." .program 1 with
    | error fault =>
      rw [htree] at hok
      cases hok
    | ok tree => exact hmode .program 1 tree htree
  · obtain ⟨-, -, -, -, htrim, -⟩ := mode_decided "  ( "
    obtain ⟨other, hother, hmoved⟩ := (htrim .expression 9).2.1 _ hparse
    exact ⟨other, hother, hmoved.cause_eq, by rw [hmoved.start_eq, htrimmed]; rfl⟩
  · obtain ⟨-, -, -, hneither, -⟩ := mode_decided "  ( "
    exact hneither 9 _ (by rw [hdetect]; exact hparse) .program
  · obtain ⟨-, -, -, -, -, hfirst⟩ := mode_decided "? 1"
    exact (hfirst _ (by decide +kernel) .program 0).1

end MiniPascal

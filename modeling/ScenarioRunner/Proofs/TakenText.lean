import ScenarioRunner.Proofs.RegexWalks

/-!
# Text that is taken

A way through a text takes the part of it that is between its two places.  Read
backwards, this says what text a match has; read forwards, which texts a
pattern matches, and which of them as a whole.

The main statements are `Cursor.Takes.span_of`, `Way.loops_flatten` and
`find?_of_matchesWhole`.
-/

namespace ScenarioRunner.Regex

/-! ## Text between two places -/

/-- Some text is between two places. -/
structure Cursor.Takes (start : Cursor) (taken : List Char) (stop : Cursor) :
    Prop where
  after : start.after = taken ++ stop.after
  before : stop.before = taken.reverse ++ start.before

namespace Cursor.Takes

variable {first second third : Cursor} {taken more : List Char}

theorem refl (cursor : Cursor) : cursor.Takes [] cursor :=
  ⟨rfl, rfl⟩

theorem trans (early : first.Takes taken second)
    (late : second.Takes more third) : first.Takes (taken ++ more) third where
  after := by rw [early.after, late.after, List.append_assoc]
  before := by
    rw [late.before, early.before, List.reverse_append, List.append_assoc]

theorem next {char : Char} (read : first.next? = some (char, second)) :
    first.Takes [char] second := by
  unfold next? at read
  split at read
  · cases read
  · rename_i after
    cases read
    exact ⟨after, rfl⟩

/-- The span between the places has the text that is taken. -/
theorem span_of (takes : first.Takes taken second) :
    (Span.mk first.position second.position).of first.text = taken := by
  have length : second.position - first.position = taken.length := by
    simp [Cursor.position, takes.before]
  have position : first.position = first.before.reverse.length :=
    List.length_reverse.symm
  rw [Span.of, length, position, Cursor.text, takes.after, List.drop_left,
    List.take_left]

end Cursor.Takes

theorem takes_of_oneOf {allowed : CharClass} {start stop : Reach}
    (walks : (Node.oneOf allowed).Walks start stop) :
    ∃ char, allowed.contains char = true ∧
      start.cursor.Takes [char] stop.cursor := by
  obtain ⟨char, cursor, read, member, rfl⟩ := walks
  exact ⟨char, member, .next read⟩

/-- One character of a class and further ones. -/
theorem takes_of_loops {allowed : CharClass} {isFirst : Bool}
    {start stop : Reach}
    (loops : Way.Loops (Node.oneOf allowed).Walks isFirst start stop) :
    ∃ taken, taken ≠ [] ∧ (∀ char ∈ taken, allowed.contains char = true) ∧
      start.cursor.Takes taken stop.cursor := by
  induction loops with
  | idle copy idles =>
      obtain ⟨char, member, takes⟩ := takes_of_oneOf copy
      exact ⟨[char], List.cons_ne_nil _ _, by simpa using member, takes⟩
  | stop copy advances =>
      obtain ⟨char, member, takes⟩ := takes_of_oneOf copy
      exact ⟨[char], List.cons_ne_nil _ _, by simpa using member, takes⟩
  | more copy advances others ih =>
      obtain ⟨char, member, takes⟩ := takes_of_oneOf copy
      obtain ⟨later, -, members, rest⟩ := ih
      exact ⟨char :: later, List.cons_ne_nil _ _,
        List.forall_mem_cons.mpr ⟨member, members⟩, takes.trans rest⟩

/-! ## Texts that a way accepts -/

/-- A way takes a text wherever the text stands, and records nothing. -/
def Way.Accepts (way : Way) (taken : List Char) : Prop :=
  ∀ before rest captures,
    way ⟨⟨before, taken ++ rest⟩, captures⟩
      ⟨⟨taken.reverse ++ before, rest⟩, captures⟩

namespace Way

variable {body other : Way} {taken more : List Char}

theorem accepts_oneOf {allowed : CharClass} {char : Char}
    (member : allowed.contains char = true) :
    (Node.oneOf allowed).Walks.Accepts [char] :=
  fun _ _ _ => ⟨char, _, rfl, member, rfl⟩

theorem accepts_literal (char : Char) :
    (Node.literal char).Walks.Accepts [char] :=
  accepts_oneOf (by simp)

theorem Accepts.seq (first : body.Accepts taken)
    (second : other.Accepts more) :
    (body.Then other).Accepts (taken ++ more) := by
  intro before rest captures
  have early := first before (more ++ rest) captures
  have late := second (taken.reverse ++ before) rest captures
  rw [← List.append_assoc] at early
  rw [← List.append_assoc, ← List.reverse_append] at late
  exact ⟨_, early, late⟩

/-- Copies of a body take one text after the other. -/
theorem loops_flatten {pieces : List (List Char)} (some : pieces ≠ [])
    (accepts : ∀ piece ∈ pieces, piece ≠ [] ∧ body.Accepts piece)
    (isFirst : Bool) : (Loops body isFirst).Accepts pieces.flatten := by
  induction pieces generalizing isFirst with
  | nil => exact absurd rfl some
  | cons piece others ih =>
      obtain ⟨⟨nonempty, accepted⟩, later⟩ :=
        List.forall_mem_cons.mp accepts
      intro before rest captures
      have longer (behind : List Char) :
          behind.length < (piece ++ behind).length := by
        have length := List.length_pos_iff.mpr nonempty
        rw [List.length_append]
        omega
      cases others with
      | nil =>
          rw [List.flatten_singleton]
          exact .stop (accepted before rest captures) (longer rest)
      | cons second pieces =>
          rw [List.flatten_cons, List.append_assoc, List.reverse_append,
            List.append_assoc]
          exact .more (accepted before _ captures) (longer _)
            (ih (List.cons_ne_nil _ _) later false _ rest captures)

/-- What a body preserves holds after any number of copies. -/
theorem Loops.preserves (property : Reach → Prop)
    (step : ∀ start stop, body start stop → property start → property stop)
    {isFirst : Bool} {start stop : Reach}
    (loops : Loops body isFirst start stop) (holds : property start) :
    property stop := by
  induction loops with
  | idle copy _ => exact step _ _ copy holds
  | stop copy _ => exact step _ _ copy holds
  | more copy _ others ih => exact ih (step _ _ copy holds)

end Way

/-! ## Texts that are matched as a whole -/

/-- A regular expression matches a text from its start to its end. -/
def MatchesWhole (regex : Regex) (text : List Char) : Prop :=
  ∃ captures, regex.root.Walks ⟨Cursor.start text, []⟩
    ⟨⟨text.reverse, []⟩, captures⟩

theorem matchesWhole_of_matchAt? {regex : Regex} {text : List Char}
    (captures : Captures)
    (found : regex.root.matchAt? (Cursor.start text) =
      some ⟨⟨text.reverse, []⟩, captures⟩) : regex.MatchesWhole text :=
  ⟨captures, Node.walks_of_matchAt? found⟩

theorem matchesWhole_of_accepts {regex : Regex} {text : List Char}
    (accepts : regex.root.Walks.Accepts text) : regex.MatchesWhole text := by
  have walks := accepts [] [] []
  rw [List.append_nil, List.append_nil] at walks
  exact ⟨[], walks⟩

/-- A place at the end of a text has all of it in front. -/
theorem Cursor.takes_of_precedes {text : List Char} {stop : Cursor}
    (precedes : (Cursor.start text).Precedes stop) (ends : stop.after = []) :
    (Cursor.start text).Takes text stop := by
  have same : stop.before.reverse = text := by
    have all := precedes.text
    rwa [Cursor.text, ends, List.append_nil] at all
  constructor
  · rw [ends, List.append_nil]
    rfl
  · rw [← same, List.reverse_reverse]
    exact (List.append_nil _).symm

/-- If every way from the start of a text leads to its end, then the first
match is the whole text. -/
theorem find?_of_matchesWhole {regex : Regex} {text : List Char}
    (whole : regex.MatchesWhole text)
    (ends : ∀ stop, regex.root.Walks ⟨Cursor.start text, []⟩ stop →
      stop.cursor.after = []) :
    (regex.find? text).map (·.whole) = some ⟨0, text.length⟩ := by
  obtain ⟨captures, walks⟩ := whole
  have matched := (Node.isSome_matchAt?_iff _ _).mpr ⟨_, walks⟩
  obtain ⟨reach, found⟩ := Option.isSome_iff_exists.mp matched
  have led := Node.walks_of_matchAt? found
  have last : reach.cursor.position = text.length := by
    have takes := Cursor.takes_of_precedes (Node.walks_forward _ led)
      (ends reach led)
    simp [Cursor.position, takes.before, Cursor.start]
  unfold Cursor.start at found
  cases text with
  | nil => simp [find?, Node.findFrom?, found, last]
  | cons char rest => simp [find?, Node.findFrom?, found, last]

end ScenarioRunner.Regex

import ScenarioRunner.Proofs.TextReplacement

/-!
# Lines of joined texts

Texts that are joined by line feeds and cut into lines again.  Lines without
line feeds come back as they were.  A text of several lines moves all texts
behind it down: a text starts on the line whose number counts the texts before
it and the line feeds in them.

The main statements are `lines_intercalate` and `exists_line_of_piece`.
-/

namespace ScenarioRunner.Text

variable {front line text : List Char}

theorem lineFeed_not_mem (member : line ∈ lines text) : '\n' ∉ line := by
  fun_induction lines text generalizing line with
  | case1 => cases member
  | case2 rest ih =>
      rcases List.mem_cons.mp member with rfl | later
      · exact List.not_mem_nil
      · exact ih later
  | case3 rest ih =>
      rcases List.mem_cons.mp member with rfl | later
      · exact List.not_mem_nil
      · exact ih later
  | case4 char rest lineFeed carriageReturn none ih =>
      obtain rfl := List.mem_singleton.mp member
      simpa using Ne.symm lineFeed
  | case5 char rest lineFeed carriageReturn first others some ih =>
      rw [some] at ih
      rcases List.mem_cons.mp member with rfl | later
      · rw [List.mem_cons, not_or]
        exact ⟨Ne.symm lineFeed, ih List.mem_cons_self⟩
      · exact ih (List.mem_cons_of_mem _ later)

/-- A character of joined texts is one of a text or of what stands between
them. -/
theorem mem_or_mem_of_mem_intercalate {between : List Char}
    {texts : List (List Char)} {char : Char}
    (member : char ∈ between.intercalate texts) :
    char ∈ between ∨ ∃ text ∈ texts, char ∈ text := by
  induction texts with
  | nil => cases member
  | cons text later ih =>
      cases later with
      | nil =>
          rw [List.intercalate_singleton] at member
          exact Or.inr ⟨text, List.mem_cons_self, member⟩
      | cons second others =>
          rw [List.intercalate_cons_of_ne_nil (List.cons_ne_nil _ _),
            List.mem_append, List.mem_append] at member
          rcases member with (own | middle) | behind
          · exact Or.inr ⟨text, List.mem_cons_self, own⟩
          · exact Or.inl middle
          · exact (ih behind).imp_right fun ⟨other, among, inside⟩ =>
              ⟨other, List.mem_cons_of_mem _ among, inside⟩

/-! ## One line -/

theorem lines_of_unbroken (unbroken : '\n' ∉ line) (nonempty : line ≠ []) :
    lines line = [line] := by
  induction line with
  | nil => exact absurd rfl nonempty
  | cons char rest ih =>
      rw [List.mem_cons, not_or] at unbroken
      have kept (others : List Char) : rest ≠ '\n' :: others := by
        rintro rfl
        exact unbroken.2 List.mem_cons_self
      rw [lines_cons (Ne.symm unbroken.1) fun others _ => kept others]
      cases rest with
      | nil => rfl
      | cons next others => rw [ih unbroken.2 (List.cons_ne_nil _ _)]

/-- A line feed ends a line.  A carriage return in front of it does not count.
-/
theorem exists_lines_concat_of_unbroken (unbroken : '\n' ∉ front) :
    ∃ line, lines (front ++ ['\n']) = [line] ∧
      (front = line ∨ front = line ++ ['\r']) := by
  induction front with
  | nil => exact ⟨[], rfl, Or.inl rfl⟩
  | cons char rest ih =>
      rw [List.mem_cons, not_or] at unbroken
      by_cases returned : char = '\r' ∧ rest = []
      · obtain ⟨rfl, rfl⟩ := returned
        exact ⟨[], rfl, Or.inr rfl⟩
      · have kept (others : List Char) (return' : char = '\r') :
            rest ++ ['\n'] ≠ '\n' :: others := by
          cases rest with
          | nil => exact absurd ⟨return', rfl⟩ returned
          | cons next rest =>
              intro same
              have first := (List.cons.inj same).1
              exact unbroken.2 (first ▸ List.mem_cons_self)
        obtain ⟨line, single, ends⟩ := ih unbroken.2
        refine ⟨char :: line, ?_, ?_⟩
        · rw [List.cons_append, lines_cons (Ne.symm unbroken.1) kept, single]
        · exact ends.imp (congrArg (char :: ·)) (congrArg (char :: ·))

/-- Lines that are not empty and do not end with carriage returns come back
when they are joined. -/
theorem lines_intercalate {all : List (List Char)}
    (unbroken : ∀ line ∈ all, '\n' ∉ line)
    (ends : ∀ line ∈ all, ∃ start last, last ≠ '\r' ∧ line = start ++ [last]) :
    lines (['\n'].intercalate all) = all := by
  induction all with
  | nil => rfl
  | cons line later ih =>
      rw [List.forall_mem_cons] at unbroken ends
      obtain ⟨⟨start, last, unreturned, whole⟩, others⟩ := ends
      cases later with
      | nil =>
          rw [List.intercalate_singleton]
          exact lines_of_unbroken unbroken.1 (by simp [whole])
      | cons second later =>
          obtain ⟨own, single, same | returned⟩ :=
            exists_lines_concat_of_unbroken unbroken.1
          · rw [List.intercalate_cons_of_ne_nil (List.cons_ne_nil _ _),
              List.append_assoc, List.singleton_append, lines_append, single,
              ← same, ih unbroken.2 others, List.singleton_append]
          · rw [whole] at returned
            exact absurd (List.append_inj_right' returned rfl)
              (by simpa using unreturned)

/-! ## Several lines -/

/-- There are as many lines as line feeds, if the text ends with one. -/
theorem length_lines_concat (text : List Char) :
    (lines (text ++ ['\n'])).length = text.count '\n' + 1 := by
  induction size : text.length using Nat.strongRecOn generalizing text with
  | ind bound ih =>
      by_cases broken : '\n' ∈ text
      · obtain ⟨front, rest, whole, unbroken⟩ :=
          List.eq_append_cons_of_mem broken
        obtain ⟨line, single, -⟩ := exists_lines_concat_of_unbroken unbroken
        have shorter : rest.length < bound := by
          rw [← size, whole, List.length_append, List.length_cons]
          omega
        rw [whole, List.append_assoc, List.cons_append, lines_append, single,
          List.length_append, ih _ shorter rest rfl, List.count_append,
          List.count_cons_self, List.count_eq_zero_of_not_mem unbroken,
          List.length_singleton]
        omega
      · obtain ⟨line, single, -⟩ := exists_lines_concat_of_unbroken broken
        rw [single, List.count_eq_zero_of_not_mem broken]
        rfl

/-- A line is the start of a text up to its first line feed, where a carriage
return at its end may be left out. -/
def Begins (line text : List Char) : Prop :=
  ∃ front rest, text = front ++ rest ∧ '\n' ∉ front ∧
    (rest = [] ∨ rest.head? = some '\n') ∧
      (front = line ∨ front = line ++ ['\r'])

/-- The start of a text, up to its first line feed. -/
theorem exists_unbroken (text : List Char) :
    ∃ front rest, text = front ++ rest ∧ '\n' ∉ front ∧
      (rest = [] ∨ ∃ others, rest = '\n' :: others) := by
  by_cases broken : '\n' ∈ text
  · obtain ⟨front, others, whole, unbroken⟩ :=
      List.eq_append_cons_of_mem broken
    exact ⟨front, _, whole, unbroken, Or.inr ⟨others, rfl⟩⟩
  · exact ⟨text, [], (List.append_nil _).symm, broken, Or.inl rfl⟩

/-- A text that is ended by a line feed begins on the first line. -/
theorem exists_begins_append (text rest : List Char) :
    ∃ line, (lines (text ++ '\n' :: rest))[0]? = some line ∧
      Begins line text := by
  obtain ⟨front, back, rfl, unbroken, ended⟩ := exists_unbroken text
  obtain ⟨line, single, ends⟩ := exists_lines_concat_of_unbroken unbroken
  have first (others : List Char) :
      (lines (front ++ '\n' :: others))[0]? = some line := by
    rw [lines_append, single]
    rfl
  rcases ended with rfl | ⟨others, rfl⟩
  · exact ⟨line, by rw [List.append_nil, first], front, [], rfl, unbroken,
      Or.inl rfl, ends⟩
  · exact ⟨line, by rw [List.append_assoc, List.cons_append, first], front, _,
      rfl, unbroken, Or.inr rfl, ends⟩

/-- So does a text that is not empty. -/
theorem exists_begins (nonempty : text ≠ []) :
    ∃ line, (lines text)[0]? = some line ∧ Begins line text := by
  obtain ⟨front, back, rfl, unbroken, ended⟩ := exists_unbroken text
  rcases ended with rfl | ⟨others, rfl⟩
  · rw [List.append_nil] at nonempty ⊢
    refine ⟨front, ?_, front, [], (List.append_nil _).symm, unbroken,
      Or.inl rfl, Or.inl rfl⟩
    rw [lines_of_unbroken unbroken nonempty]
    rfl
  · obtain ⟨line, single, ends⟩ := exists_lines_concat_of_unbroken unbroken
    refine ⟨line, ?_, front, _, rfl, unbroken, Or.inr rfl, ends⟩
    rw [lines_append, single]
    rfl

/-- The line on which one of several texts starts that are joined by line
feeds. -/
def startLine (pieces : List (List Char)) (index : Nat) : Nat :=
  index + (pieces.take index).flatten.count '\n'

theorem startLine_cons_succ (first : List Char) (later : List (List Char))
    (index : Nat) :
    startLine (first :: later) (index + 1) =
      (lines (first ++ ['\n'])).length + startLine later index := by
  rw [startLine, startLine, List.take_succ_cons, List.flatten_cons,
    List.count_append, length_lines_concat]
  omega

/-- Each of several texts that are joined begins on its line.  The last of them
is not empty. -/
theorem exists_line_of_piece {pieces : List (List Char)}
    (nonempty : ∀ last ∈ pieces.getLast?, last ≠ []) {index : Nat}
    {piece : List Char} (own : pieces[index]? = some piece) :
    ∃ line,
      (lines (['\n'].intercalate pieces))[startLine pieces index]? =
          some line ∧
        Begins line piece := by
  induction pieces generalizing index with
  | nil => simp at own
  | cons first later ih =>
      cases later with
      | nil =>
          obtain ⟨rfl, rfl⟩ : index = 0 ∧ first = piece := by
            simpa [List.getElem?_singleton] using own
          rw [List.intercalate_singleton]
          exact exists_begins (nonempty first rfl)
      | cons second others =>
          rw [List.intercalate_cons_of_ne_nil (List.cons_ne_nil _ _),
            List.append_assoc, List.singleton_append]
          cases index with
          | zero =>
              cases own
              exact exists_begins_append piece _
          | succ index =>
              obtain ⟨line, known, begins⟩ := ih nonempty own
              refine ⟨line, ?_, begins⟩
              rw [lines_append, startLine_cons_succ,
                List.getElem?_append_right (Nat.le_add_right _ _),
                Nat.add_sub_cancel_left, known]

end ScenarioRunner.Text

import Mathlib.Data.List.Basic

/-!
# Offsets in bytes

A place in a text may be given by the number of characters before it or by the
number of their bytes.  A character may have several bytes, so not every offset
in bytes is a place: a text can be cut at those offsets only where a character
starts or the text ends.

The main statements are `cutAt?_byteOffset` and `isSome_cutAt?_iff`.
-/

namespace ScenarioRunner.Text

/-- The number of bytes of a text. -/
def byteCount (text : List Char) : Nat :=
  (String.ofList text).utf8ByteSize

@[simp] theorem byteCount_nil : byteCount [] = 0 := by
  simp [byteCount]

@[simp]
theorem byteCount_cons (char : Char) (rest : List Char) :
    byteCount (char :: rest) = char.utf8Size + byteCount rest := by
  rw [byteCount, String.ofList_cons, String.utf8ByteSize_append,
    String.utf8ByteSize_singleton]
  rfl

@[simp]
theorem byteCount_append (front behind : List Char) :
    byteCount (front ++ behind) = byteCount front + byteCount behind := by
  rw [byteCount, String.ofList_append, String.utf8ByteSize_append]
  rfl

theorem byteCount_pos {text : List Char} (nonempty : text ≠ []) :
    0 < byteCount text := by
  obtain ⟨char, rest, rfl⟩ := List.exists_cons_of_ne_nil nonempty
  rw [byteCount_cons]
  exact Nat.add_pos_left char.utf8Size_pos _

/-! ## Places -/

/-- The offset in bytes of the place behind so many characters. -/
def byteOffset (text : List Char) (position : Nat) : Nat :=
  byteCount (text.take position)

/-- A character starts at an offset in bytes, or the text ends there. -/
def IsBoundary (text : List Char) (offset : Nat) : Prop :=
  (String.Pos.Raw.mk offset).IsValid (String.ofList text)

variable {text : List Char} {position : Nat}

theorem byteOffset_le_byteCount (text : List Char) (position : Nat) :
    byteOffset text position ≤ byteCount text := by
  conv_rhs => rw [← List.take_append_drop position text, byteCount_append]
  exact Nat.le_add_right _ _

theorem byteOffset_of_length_le (behind : text.length ≤ position) :
    byteOffset text position = byteCount text := by
  rw [byteOffset, List.take_of_length_le behind]

/-- The next place is behind all bytes of the character. -/
theorem byteOffset_succ {char : Char} {rest : List Char}
    (after : text.drop position = char :: rest) :
    byteOffset text (position + 1) =
      byteOffset text position + char.utf8Size := by
  have taken : text.take (position + 1) = text.take position ++ [char] := by
    rw [List.take_add, after]
    rfl
  rw [byteOffset, taken, byteCount_append, byteCount_cons, byteCount_nil,
    Nat.add_zero]
  rfl

/-- The bytes between two places. -/
theorem byteOffset_add (text : List Char) (first count : Nat) :
    byteOffset text (first + count) =
      byteOffset text first + byteCount ((text.drop first).take count) := by
  rw [byteOffset, List.take_add, byteCount_append]
  rfl

theorem byteOffset_mono (text : List Char) {first second : Nat}
    (ordered : first ≤ second) :
    byteOffset text first ≤ byteOffset text second := by
  obtain ⟨count, rfl⟩ := Nat.exists_eq_add_of_le ordered
  rw [byteOffset_add]
  exact Nat.le_add_right _ _

theorem byteOffset_lt {first second : Nat} (before : first < second)
    (inside : second ≤ text.length) :
    byteOffset text first < byteOffset text second := by
  obtain ⟨count, rfl⟩ := Nat.exists_eq_add_of_lt before
  rw [Nat.add_assoc, byteOffset_add]
  apply Nat.lt_add_of_pos_right
  apply byteCount_pos
  rw [← List.length_pos_iff, List.length_take, List.length_drop]
  omega

/-- Places in a text are ordered as their offsets are. -/
theorem byteOffset_lt_iff {first second : Nat}
    (inside : second ≤ text.length) :
    byteOffset text first < byteOffset text second ↔ first < second := by
  constructor
  · intro before
    by_contra behind
    have ordered := byteOffset_mono text (Nat.not_lt.mp behind)
    exact absurd before (Nat.not_lt.mpr ordered)
  · exact fun before => byteOffset_lt before inside

/-- The boundaries are the offsets of the places. -/
theorem isBoundary_iff {offset : Nat} :
    IsBoundary text offset ↔
      ∃ position ≤ text.length, byteOffset text position = offset := by
  rw [IsBoundary, String.Pos.Raw.isValid_ofList]
  constructor
  · rintro ⟨position, same⟩
    by_cases inside : position ≤ text.length
    · exact ⟨position, inside, same.symm⟩
    · refine ⟨text.length, Nat.le_refl _, ?_⟩
      rw [byteOffset_of_length_le (Nat.le_refl _),
        ← byteOffset_of_length_le (Nat.le_of_not_le inside)]
      exact same.symm
  · rintro ⟨position, -, same⟩
    exact ⟨position, same.symm⟩

theorem isBoundary_byteOffset (text : List Char) (position : Nat) :
    IsBoundary text (byteOffset text position) := by
  rw [IsBoundary, String.Pos.Raw.isValid_ofList]
  exact ⟨position, rfl⟩

/-! ## Cutting a text -/

/-- What stands before and behind an offset in bytes; within a character a text
is not cut. -/
def cutAt? : List Char → Nat → Option (List Char × List Char)
  | rest, 0 => some ([], rest)
  | [], _ + 1 => none
  | char :: rest, offset + 1 =>
      if offset + 1 < char.utf8Size then none
      else
        (cutAt? rest (offset + 1 - char.utf8Size)).map
          fun (front, behind) => (char :: front, behind)

theorem cutAt?_cons (char : Char) (rest : List Char) (offset : Nat) :
    cutAt? (char :: rest) (char.utf8Size + offset) =
      (cutAt? rest offset).map fun (front, behind) =>
        (char :: front, behind) := by
  obtain ⟨more, bytes⟩ := Nat.exists_eq_add_of_lt char.utf8Size_pos
  rw [Nat.zero_add] at bytes
  have sum : char.utf8Size + offset = offset + more + 1 := by omega
  rw [sum, cutAt?, if_neg (by omega)]
  congr 2
  omega

/-- A text is cut where its front ends. -/
theorem cutAt?_append (front behind : List Char) :
    cutAt? (front ++ behind) (byteCount front) = some (front, behind) := by
  induction front with
  | nil =>
      rw [byteCount_nil, List.nil_append]
      cases behind <;> rfl
  | cons char rest ih =>
      rw [List.cons_append, byteCount_cons, cutAt?_cons, ih, Option.map_some]

theorem cutAt?_byteOffset (text : List Char) (position : Nat) :
    cutAt? text (byteOffset text position) =
      some (text.take position, text.drop position) := by
  have cut := cutAt?_append (text.take position) (text.drop position)
  rwa [List.take_append_drop] at cut

theorem of_cutAt? {offset : Nat} {front behind : List Char}
    (cut : cutAt? text offset = some (front, behind)) :
    text = front ++ behind ∧ byteCount front = offset := by
  fun_induction cutAt? text offset generalizing front behind with
  | case1 rest =>
      cases cut
      exact ⟨rfl, byteCount_nil⟩
  | case2 => cases cut
  | case3 => cases cut
  | case4 char rest offset fits ih =>
      obtain ⟨⟨early, late⟩, inner, same⟩ := Option.map_eq_some_iff.mp cut
      cases same
      obtain ⟨rfl, bytes⟩ := ih inner
      refine ⟨rfl, ?_⟩
      rw [byteCount_cons, bytes]
      omega

/-- A text can be cut at its boundaries and nowhere else. -/
theorem isSome_cutAt?_iff {offset : Nat} :
    (cutAt? text offset).isSome = true ↔ IsBoundary text offset := by
  rw [isBoundary_iff, Option.isSome_iff_exists]
  constructor
  · rintro ⟨⟨front, behind⟩, cut⟩
    obtain ⟨rfl, rfl⟩ := of_cutAt? cut
    refine ⟨front.length, by simp, ?_⟩
    rw [byteOffset, List.take_left]
  · rintro ⟨position, -, rfl⟩
    exact ⟨_, cutAt?_byteOffset text position⟩

end ScenarioRunner.Text

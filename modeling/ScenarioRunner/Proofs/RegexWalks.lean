import ScenarioRunner.Regex.Basic

/-!
# The ways to match a pattern

A pattern can be matched in several ways, each of which leads from one place to
another.  A search tries all of them: what it finds comes from a way that leads
to a place that the continuation accepts, and it finds something if there is
such a way.  So a match spans a way from a place of the text.

The main statements are `Node.search_tries` and `Node.exists_of_findFrom?`.
-/

namespace ScenarioRunner.Regex

/-- What leads from one place of a search to another. -/
abbrev Way := Reach → Reach → Prop

/-- Some text was taken between two places. -/
abbrev Reach.Advances (start stop : Reach) : Prop :=
  stop.cursor.after.length < start.cursor.after.length

namespace Way

def Stay : Way := fun start stop => stop = start

def Then (first second : Way) : Way := fun start stop =>
  ∃ middle, first start middle ∧ second middle stop

def Either (first second : Way) : Way := fun start stop =>
  first start stop ∨ second start stop

/-- So many copies of a body. -/
inductive Copies (body : Way) : Nat → Way where
  | none (place : Reach) : Copies body 0 place place
  | copy {count : Nat} {start middle stop : Reach}
      (first : body start middle) (others : Copies body count middle stop) :
      Copies body (count + 1) start stop

/-- At most so many copies of a body. -/
def UpTo (body : Way) (most : Nat) : Way := fun start stop =>
  ∃ count ≤ most, Copies body count start stop

/-- One copy of a body and further ones.  Every copy but the first takes some
text, and so does a copy before another. -/
inductive Loops (body : Way) : Bool → Way where
  | idle {start stop : Reach} (copy : body start stop)
      (idles : ¬ start.Advances stop) : Loops body true start stop
  | stop {isFirst : Bool} {start stop : Reach} (copy : body start stop)
      (advances : start.Advances stop) : Loops body isFirst start stop
  | more {isFirst : Bool} {start middle stop : Reach}
      (copy : body start middle) (advances : start.Advances middle)
      (others : Loops body false middle stop) :
      Loops body isFirst start stop

end Way

/-- The ways to match a pattern. -/
def Node.Walks : Node → Way
  | .empty => .Stay
  | .oneOf allowed => fun start stop =>
      ∃ char cursor, start.cursor.next? = some (char, cursor) ∧
        allowed.contains char = true ∧ stop = { start with cursor }
  | .anchor condition => fun start stop =>
      condition.holds start.cursor = true ∧ stop = start
  | .seq first second => first.Walks.Then second.Walks
  | .alt first second => first.Walks.Either second.Walks
  | .repeat body atLeast (some atMost) _ =>
      (Way.Copies body.Walks atLeast).Then
        (body.Walks.UpTo (atMost - atLeast))
  | .repeat body 0 none _ => (Way.Loops body.Walks true).Either .Stay
  | .repeat body (count + 1) none _ =>
      (Way.Copies body.Walks count).Then (.Loops body.Walks true)
  | .group index _ body => fun start stop =>
      ∃ inner, body.Walks start inner ∧
        stop =
          { inner with
            captures :=
              (index, ⟨start.cursor.position, inner.cursor.position⟩) ::
                inner.captures }

/-! ## Searches try all ways -/

namespace Search

variable {Result : Type}

theorem orElse_eq_some {first : Option Result} {second : Unit → Option Result}
    {result : Result} (found : orElse first second = some result) :
    first = some result ∨ second () = some result := by
  cases first with
  | some other => exact Or.inl found
  | none => exact Or.inr found

@[simp]
theorem isSome_orElse (first : Option Result)
    (second : Unit → Option Result) :
    (orElse first second).isSome =
      (first.isSome || (second ()).isSome) := by
  cases first <;> rfl

theorem prefer_eq_some {greedy : Bool} {more stop : Unit → Option Result}
    {result : Result} (found : prefer greedy more stop = some result) :
    more () = some result ∨ stop () = some result := by
  cases greedy with
  | true => exact orElse_eq_some found
  | false => exact (orElse_eq_some found).symm

@[simp]
theorem isSome_prefer (greedy : Bool) (more stop : Unit → Option Result) :
    (prefer greedy more stop).isSome =
      ((more ()).isSome || (stop ()).isSome) := by
  cases greedy <;> simp [prefer, Bool.or_comm]

/-- A step of a search tries some ways: it finds what the continuation makes of
the place that one of them leads to, and it finds something if it can. -/
structure Tries (step : Continuation Result → Continuation Result)
    (way : Way) : Prop where
  sound : ∀ {next start result}, step next start = some result →
    ∃ stop, way start stop ∧ next stop = some result
  complete : ∀ {next start stop}, way start stop →
    (next stop).isSome = true → (step next start).isSome = true

namespace Tries

variable {body other : Continuation Result → Continuation Result}
  {way way' : Way}

theorem stay : Tries (fun next : Continuation Result => next) .Stay where
  sound found := ⟨_, rfl, found⟩
  complete stays accepted := by
    cases stays
    exact accepted

theorem seq (tries : Tries body way) (rest : Tries other way') :
    Tries (fun next => body (other next)) (way.Then way') where
  sound found := by
    obtain ⟨middle, early, others⟩ := tries.sound found
    obtain ⟨stop, late, accepted⟩ := rest.sound others
    exact ⟨stop, ⟨middle, early, late⟩, accepted⟩
  complete walks accepted := by
    obtain ⟨middle, early, late⟩ := walks
    exact tries.complete early (rest.complete late accepted)

/-- Two steps in the order that greed asks for. -/
theorem prefer (tries : Tries body way) (rest : Tries other way')
    (greedy : Bool) :
    Tries
      (fun next start =>
        Search.prefer greedy (fun _ => body next start)
          (fun _ => other next start))
      (way.Either way') where
  sound found := by
    rcases prefer_eq_some found with more | stop
    · obtain ⟨stop, walks, accepted⟩ := tries.sound more
      exact ⟨stop, Or.inl walks, accepted⟩
    · obtain ⟨stop, walks, accepted⟩ := rest.sound stop
      exact ⟨stop, Or.inr walks, accepted⟩
  complete walks accepted := by
    rw [isSome_prefer, Bool.or_eq_true]
    rcases walks with left | right
    · exact Or.inl (tries.complete left accepted)
    · exact Or.inr (rest.complete right accepted)

theorem exactly (tries : Tries body way) (count : Nat) :
    Tries (Search.exactly body count) (Way.Copies way count) := by
  induction count with
  | zero =>
      constructor
      · intro next start result found
        exact ⟨start, .none start, found⟩
      · intro next start stop copies accepted
        cases copies
        exact accepted
  | succ count ih =>
      constructor
      · intro next start result found
        obtain ⟨stop, ⟨middle, first, others⟩, accepted⟩ :=
          (tries.seq ih).sound found
        exact ⟨stop, .copy first others, accepted⟩
      · intro next start stop copies accepted
        cases copies with
        | copy first others =>
            exact (tries.seq ih).complete ⟨_, first, others⟩ accepted

theorem upTo (tries : Tries body way) (greedy : Bool) (most : Nat) :
    Tries (Search.upTo body greedy most) (way.UpTo most) := by
  induction most with
  | zero =>
      constructor
      · intro next start result found
        exact ⟨start, ⟨0, Nat.le_refl 0, .none start⟩, found⟩
      · rintro next start stop ⟨count, few, copies⟩ accepted
        obtain rfl : count = 0 := Nat.le_zero.mp few
        cases copies
        exact accepted
  | succ most ih =>
      have either := (tries.seq ih).prefer stay greedy
      constructor
      · intro next start result found
        obtain ⟨stop, walks, accepted⟩ := either.sound found
        refine ⟨stop, ?_, accepted⟩
        rcases walks with ⟨middle, first, count, few, others⟩ | rfl
        · exact ⟨count + 1, Nat.succ_le_succ few, .copy first others⟩
        · exact ⟨0, Nat.zero_le _, .none _⟩
      · rintro next start stop ⟨count, few, copies⟩ accepted
        refine either.complete ?_ accepted
        cases copies with
        | none => exact Or.inr rfl
        | copy first others =>
            exact Or.inl
              ⟨_, first, _, Nat.le_of_succ_le_succ few, others⟩

theorem oneOrMore_sound (tries : Tries body way) {greedy : Bool}
    {next : Continuation Result} {fuel : Nat} {isFirst : Bool}
    {start : Reach} {result : Result}
    (found :
      Search.oneOrMore body greedy next fuel isFirst start = some result) :
    ∃ stop, Way.Loops way isFirst start stop ∧ next stop = some result := by
  induction fuel generalizing isFirst start with
  | zero => cases found
  | succ fuel ih =>
      obtain ⟨middle, copy, others⟩ := tries.sound found
      by_cases advances : start.Advances middle
      · rw [if_pos advances] at others
        rcases prefer_eq_some others with more | stop
        · obtain ⟨stop, loops, accepted⟩ := ih more
          exact ⟨stop, .more copy advances loops, accepted⟩
        · exact ⟨middle, .stop copy advances, stop⟩
      · rw [if_neg advances] at others
        cases isFirst with
        | false => cases others
        | true => exact ⟨middle, .idle copy advances, others⟩

/-- The text that is left bounds the number of copies. -/
theorem oneOrMore_complete (tries : Tries body way) {greedy : Bool}
    {next : Continuation Result} {isFirst : Bool} {start stop : Reach}
    (loops : Way.Loops way isFirst start stop)
    (accepted : (next stop).isSome = true) {fuel : Nat}
    (enough : start.cursor.after.length < fuel) :
    (Search.oneOrMore body greedy next fuel isFirst start).isSome =
      true := by
  induction loops generalizing fuel with
  | idle copy idles =>
      obtain ⟨fuel, rfl⟩ := Nat.exists_eq_add_of_lt enough
      apply tries.complete copy
      rw [if_neg idles]
      exact accepted
  | stop copy advances =>
      obtain ⟨fuel, rfl⟩ := Nat.exists_eq_add_of_lt enough
      apply tries.complete copy
      rw [if_pos advances, isSome_prefer, accepted, Bool.or_true]
  | more copy advances others ih =>
      obtain ⟨more, rfl⟩ := Nat.exists_eq_add_of_lt enough
      apply tries.complete copy
      rw [if_pos advances, isSome_prefer, ih accepted (by omega),
        Bool.true_or]

theorem loop (tries : Tries body way) (greedy : Bool) :
    Tries
      (fun next start =>
        Search.oneOrMore body greedy next (start.cursor.after.length + 1)
          true start)
      (Way.Loops way true) where
  sound := tries.oneOrMore_sound
  complete loops accepted :=
    tries.oneOrMore_complete loops accepted (Nat.lt_succ_self _)

end Tries

end Search

open Search (Tries)

namespace Node

variable {Result : Type}

theorem tries_oneOf (allowed : CharClass) :
    Tries (@search Result (.oneOf allowed)) (oneOf allowed).Walks where
  sound {next start result} found := by
    unfold search at found
    cases read : start.cursor.next? with
    | none => simp [read] at found
    | some taken =>
        simp only [read] at found
        split at found
        · rename_i member
          exact ⟨_, ⟨taken.1, taken.2, read, member, rfl⟩, found⟩
        · cases found
  complete walks accepted := by
    obtain ⟨char, cursor, read, member, rfl⟩ := walks
    simp only [search, read, member, if_true]
    exact accepted

theorem tries_anchor (condition : Anchor) :
    Tries (@search Result (.anchor condition)) (anchor condition).Walks where
  sound {next start result} found := by
    unfold search at found
    split at found
    · rename_i holds
      exact ⟨start, ⟨holds, rfl⟩, found⟩
    · cases found
  complete walks accepted := by
    obtain ⟨holds, rfl⟩ := walks
    unfold search
    rw [if_pos holds]
    exact accepted

theorem tries_group {body : Node}
    (tries : Tries (@search Result body) body.Walks) (index : Nat)
    (name : Option String) :
    Tries (@search Result (.group index name body))
      (group index name body).Walks where
  sound found := by
    obtain ⟨inner, walks, accepted⟩ := tries.sound found
    exact ⟨_, ⟨inner, walks, rfl⟩, accepted⟩
  complete walks accepted := by
    obtain ⟨inner, walks, rfl⟩ := walks
    exact tries.complete walks accepted

/-- A search tries the ways to match its pattern. -/
theorem search_tries (node : Node) :
    Tries (@search Result node) node.Walks := by
  induction node with
  | empty => exact .stay
  | oneOf allowed => exact tries_oneOf allowed
  | anchor condition => exact tries_anchor condition
  | seq first second firstIH secondIH => exact firstIH.seq secondIH
  | alt first second firstIH secondIH => exact firstIH.prefer secondIH true
  | group index name body ih => exact tries_group ih index name
  | «repeat» body atLeast atMost greedy ih =>
      cases atMost with
      | some atMost => exact (ih.exactly atLeast).seq (ih.upTo greedy _)
      | none =>
          cases atLeast with
          | zero => exact (ih.loop greedy).prefer .stay greedy
          | succ count => exact (ih.exactly count).seq (ih.loop greedy)

end Node

/-! ## Places of a text -/

namespace Cursor

/-- The text that a place is in. -/
def text (cursor : Cursor) : List Char :=
  cursor.before.reverse ++ cursor.after

/-- A place is in the same text as another, and not before it. -/
structure Precedes (first second : Cursor) : Prop where
  text : second.text = first.text
  position : first.position ≤ second.position

namespace Precedes

variable {first second third : Cursor}

theorem refl (cursor : Cursor) : cursor.Precedes cursor :=
  ⟨rfl, Nat.le_refl _⟩

theorem trans (early : first.Precedes second) (late : second.Precedes third) :
    first.Precedes third :=
  ⟨late.text.trans early.text,
    Nat.le_trans early.position late.position⟩

theorem next {char : Char} (read : first.next? = some (char, second)) :
    first.Precedes second := by
  unfold next? at read
  split at read
  · cases read
  · rename_i rest after
    cases read
    constructor
    · simp [Cursor.text, after]
    · exact Nat.le_succ _

end Precedes

theorem advance_eq (cursor : Cursor) (count : Nat) :
    cursor.advance count =
      ⟨(cursor.after.take count).reverse ++ cursor.before,
        cursor.after.drop count⟩ := by
  induction count generalizing cursor with
  | zero => rfl
  | succ count ih =>
      rcases cursor with ⟨before, _ | ⟨char, rest⟩⟩
      · rfl
      · simp [advance, ih]

theorem advance_start (text : List Char) (count : Nat) :
    (start text).advance count =
      ⟨(text.take count).reverse, text.drop count⟩ := by
  rw [advance_eq, start, List.append_nil]

@[simp]
theorem text_advance (cursor : Cursor) (count : Nat) :
    (cursor.advance count).text = cursor.text := by
  simp [advance_eq, text]

/-- A place is known by its text and its position. -/
theorem eq_advance (cursor : Cursor) :
    cursor = (start cursor.text).advance cursor.position := by
  rw [advance_start, text, position, ← List.length_reverse,
    List.take_left, List.drop_left, List.reverse_reverse]

theorem position_le_length (cursor : Cursor) :
    cursor.position ≤ cursor.text.length := by
  simp [text, position]

end Cursor

namespace Way

/-- Ways that do not lead back, nor to another text. -/
def Forward (way : Way) : Prop :=
  ∀ ⦃start stop⦄, way start stop → start.cursor.Precedes stop.cursor

namespace Forward

variable {body other : Way}

theorem stay : Forward .Stay := by
  rintro start stop rfl
  exact .refl _

theorem seq (first : body.Forward) (second : other.Forward) :
    (body.Then other).Forward := by
  rintro start stop ⟨middle, early, late⟩
  exact (first early).trans (second late)

theorem either (first : body.Forward) (second : other.Forward) :
    (body.Either other).Forward := by
  rintro start stop (walks | walks)
  · exact first walks
  · exact second walks

theorem copies (forward : body.Forward) (count : Nat) :
    (Copies body count).Forward := by
  intro start stop walks
  induction walks with
  | none => exact .refl _
  | copy first others ih => exact (forward first).trans ih

theorem upTo (forward : body.Forward) (most : Nat) :
    (body.UpTo most).Forward := by
  rintro start stop ⟨count, -, walks⟩
  exact forward.copies count walks

theorem loops (forward : body.Forward) (isFirst : Bool) :
    (Loops body isFirst).Forward := by
  intro start stop walks
  induction walks with
  | idle copy _ => exact forward copy
  | stop copy _ => exact forward copy
  | more copy _ others ih => exact (forward copy).trans ih

end Forward

end Way

theorem Node.walks_forward (node : Node) : node.Walks.Forward := by
  induction node with
  | empty => exact .stay
  | oneOf allowed =>
      rintro start stop ⟨char, cursor, read, -, rfl⟩
      exact .next read
  | anchor condition =>
      rintro start stop ⟨-, rfl⟩
      exact .refl _
  | seq first second firstIH secondIH => exact firstIH.seq secondIH
  | alt first second firstIH secondIH => exact firstIH.either secondIH
  | group index name body ih =>
      rintro start stop ⟨inner, walks, rfl⟩
      have inside : start.cursor.Precedes inner.cursor := ih walks
      exact inside
  | «repeat» body atLeast atMost greedy ih =>
      cases atMost with
      | some atMost => exact (ih.copies atLeast).seq (ih.upTo _)
      | none =>
          cases atLeast with
          | zero => exact (ih.loops true).either .stay
          | succ count => exact (ih.copies count).seq (ih.loops true)

/-! ## Matches -/

namespace Node

/-- A pattern has a match at a place if there is some way from it. -/
theorem isSome_matchAt?_iff (node : Node) (cursor : Cursor) :
    (node.matchAt? cursor).isSome = true ↔
      ∃ stop, node.Walks ⟨cursor, []⟩ stop := by
  constructor
  · intro found
    obtain ⟨reach, found⟩ := Option.isSome_iff_exists.mp found
    obtain ⟨stop, walks, -⟩ := node.search_tries.sound found
    exact ⟨stop, walks⟩
  · rintro ⟨stop, walks⟩
    exact node.search_tries.complete walks rfl

theorem walks_of_matchAt? {node : Node} {cursor : Cursor} {reach : Reach}
    (found : node.matchAt? cursor = some reach) :
    node.Walks ⟨cursor, []⟩ reach := by
  obtain ⟨stop, walks, same⟩ := node.search_tries.sound found
  cases same
  exact walks

/-- A match spans from a place at or behind the given one to a place that a
way leads to. -/
theorem exists_of_findFrom? {node : Node} {before after : List Char}
    {found : Match} (search : node.findFrom? before after = some found) :
    ∃ start stop : Cursor,
      (Cursor.mk before after).Precedes start ∧
        node.Walks ⟨start, []⟩ ⟨stop, found.captures⟩ ∧
        found.whole = ⟨start.position, stop.position⟩ := by
  induction after generalizing before with
  | nil =>
      rw [findFrom?, Option.map_eq_some_iff] at search
      obtain ⟨reach, matched, rfl⟩ := search
      exact ⟨_, reach.cursor, .refl _, walks_of_matchAt? matched, rfl⟩
  | cons char rest ih =>
      rw [findFrom?] at search
      split at search
      · rename_i reach matched
        cases search
        exact ⟨_, reach.cursor, .refl _, walks_of_matchAt? matched, rfl⟩
      · obtain ⟨start, stop, precedes, walks, whole⟩ := ih search
        have read :
            (Cursor.mk before (char :: rest)).next? =
              some (char, ⟨char :: before, rest⟩) :=
          rfl
        have next := Cursor.Precedes.next read
        exact ⟨start, stop, next.trans precedes, walks, whole⟩

/-- A pattern that matches at the given place is found. -/
theorem isSome_findFrom? {node : Node} {before after : List Char}
    {stop : Reach} (walks : node.Walks ⟨⟨before, after⟩, []⟩ stop) :
    (node.findFrom? before after).isSome = true := by
  have matched := (node.isSome_matchAt?_iff ⟨before, after⟩).mpr ⟨_, walks⟩
  obtain ⟨reach, found⟩ := Option.isSome_iff_exists.mp matched
  cases after with
  | nil => simp [findFrom?, found]
  | cons char rest => simp [findFrom?, found]

end Node

end ScenarioRunner.Regex

/-!
# Text patterns

In a pattern a percent sign stands for any run of characters, an underscore
for any one character, and a backslash makes the character behind it stand for
itself; a backslash at the very end stands for itself.  Matching keeps two
cursors and, once a run was met, a point to resume from: the tokens behind the
last run and the text behind the shortest run not yet tried.  Only the last
run ever has to be lengthened.
-/

namespace JsonApi.Like

/-- One token of a pattern. -/
inductive Token where
  | anyRun
  | anyCharacter
  | literal (character : Char)
deriving DecidableEq

/-- The tokens of a pattern. -/
def tokens : List Char → List Token
  | [] => []
  | '\\' :: character :: rest => .literal character :: tokens rest
  | '%' :: rest => .anyRun :: tokens rest
  | '_' :: rest => .anyCharacter :: tokens rest
  | character :: rest => .literal character :: tokens rest

/-- Whether a token other than a run takes a character. -/
def Token.takes (token : Token) (character : Char) : Bool :=
  match token with
  | .anyRun => false
  | .anyCharacter => true
  | .literal expected => expected = character

/-- Whether nothing but runs is left. -/
def onlyRuns (pattern : List Token) : Bool :=
  pattern.all (· = .anyRun)

/-- Where to go on after a mismatch: the tokens behind the last run and the text
it does not cover. -/
structure Resume where
  pattern : List Token
  text : List Char

/-- A state of matching: the text and the tokens ahead, and where to resume. -/
structure State where
  text : List Char
  pattern : List Token
  resume : Option Resume

/-- What a state leads to. -/
inductive Outcome where
  | answer (matched : Bool)
  | next (state : State)

/-- Goes on after a mismatch, with the last run one character longer. -/
def State.backtrack (state : State) : Outcome :=
  match state.resume with
  | none => .answer false
  | some ⟨_, []⟩ => .answer false
  | some ⟨pattern, _ :: text⟩ => .next ⟨text, pattern, some ⟨pattern, text⟩⟩

/-- Takes one step. -/
def State.step (state : State) : Outcome :=
  match state.text, state.pattern with
  | [], pattern => .answer (onlyRuns pattern)
  | text, .anyRun :: pattern => .next ⟨text, pattern, some ⟨pattern, text⟩⟩
  | character :: text, token :: pattern =>
    if token.takes character then .next ⟨text, pattern, state.resume⟩
    else state.backtrack
  | _, [] => state.backtrack

/-- What is ahead in a state is not longer than what is ahead at the point to
resume from. -/
def State.Coherent (state : State) : Prop :=
  match state.resume with
  | none => True
  | some resume =>
    state.pattern.length ≤ resume.pattern.length ∧
      state.text.length ≤ resume.text.length

/-- A step leads from a coherent state to a coherent one. -/
theorem State.coherent_of_step
    {state following : State}
    (coherent : state.Coherent)
    (taken : state.step = .next following) :
    following.Coherent := by
  obtain ⟨text, pattern, resume⟩ := state
  unfold State.step at taken
  dsimp only at taken
  split at taken
  · simp at taken
  · simp only [Outcome.next.injEq] at taken
    subst taken
    simp [State.Coherent]
  · split at taken
    · simp only [Outcome.next.injEq] at taken
      subst taken
      cases resume with
      | none => simp [State.Coherent]
      | some resume =>
        simp only [State.Coherent, List.length_cons] at coherent ⊢
        omega
    · unfold State.backtrack at taken
      split at taken <;> simp only [Outcome.next.injEq, reduceCtorEq] at taken
      subst taken
      simp [State.Coherent]
  · unfold State.backtrack at taken
    split at taken <;> simp only [Outcome.next.injEq, reduceCtorEq] at taken
    subst taken
    simp [State.Coherent]

/-- The tokens behind the last run, or more than the tokens ahead if there was
no run. -/
def State.tokensAhead (state : State) : Nat :=
  match state.resume with
  | none => state.pattern.length + 1
  | some resume => resume.pattern.length

/-- The text that the last run does not cover yet. -/
def State.uncovered (state : State) : Nat :=
  match state.resume with
  | none => 0
  | some resume => resume.text.length

/-- The quantities that a step decreases, the most significant first. -/
def State.rank (state : State) : Nat × Nat × Nat :=
  (state.tokensAhead, state.uncovered, state.text.length)

/-- A step from a coherent state leads to a state of lower rank. -/
theorem State.rank_lt_of_step
    {state following : State}
    (coherent : state.Coherent)
    (taken : state.step = .next following) :
    Prod.Lex (· < ·) (Prod.Lex (· < ·) (· < ·)) following.rank state.rank := by
  obtain ⟨text, pattern, resume⟩ := state
  have backtracked : ∀ start : State, start.resume = resume →
      start.backtrack = .next following →
      Prod.Lex (· < ·) (Prod.Lex (· < ·) (· < ·)) following.rank
        start.rank := by
    intro start isResume moved
    unfold State.backtrack at moved
    split at moved <;> simp only [Outcome.next.injEq, reduceCtorEq] at moved
    rename_i resumed
    subst moved
    simp only [State.rank, State.tokensAhead, State.uncovered, resumed]
    exact Prod.Lex.right _ (Prod.Lex.left _ _ (by simp))
  unfold State.step at taken
  dsimp only at taken
  split at taken
  · simp at taken
  · simp only [Outcome.next.injEq] at taken
    subst taken
    cases resume with
    | none =>
        exact Prod.Lex.left _ _
          (by simp only [State.tokensAhead, List.length_cons]; omega)
    | some resume =>
      simp only [State.Coherent, List.length_cons] at coherent
      exact Prod.Lex.left _ _ (by simp only [State.tokensAhead]; omega)
  · split at taken
    · simp only [Outcome.next.injEq] at taken
      subst taken
      cases resume with
      | none => exact Prod.Lex.left _ _ (by simp [State.tokensAhead])
      | some resume => exact Prod.Lex.right _ (Prod.Lex.right _ (by simp))
    · exact backtracked _ rfl taken
  · exact backtracked _ rfl taken

/-- Runs a coherent state to its answer. -/
def run (state : State) (coherent : state.Coherent) : Bool :=
  match taken : state.step with
  | .answer matched => matched
  | .next following => run following (State.coherent_of_step coherent taken)
termination_by state.rank
decreasing_by exact State.rank_lt_of_step coherent taken

/-- The state in which matching begins. -/
def State.initial (text : List Char) (pattern : List Token) : State :=
  ⟨text, pattern, none⟩

/-- Whether a text matches a pattern. -/
def isMatch (text pattern : String) : Bool :=
  run (.initial text.toList (tokens pattern.toList)) trivial

/-!
## Text patterns matched with cursors

The same matching with the whole text and all tokens kept in place.  Two
cursors count the characters and the tokens passed, and the point to resume
from is remembered by counts as well.  A step that asks for something outside
the text or the tokens has no result.
-/

/-- Where to go on after a mismatch: the place of the last run, and the number
of characters up to the end of what it covers. -/
structure Mark where
  run : Nat
  character : Nat
deriving DecidableEq

/-- The numbers of characters and tokens passed, and where to go on after a
mismatch. -/
structure Cursors where
  character : Nat
  token : Nat
  mark? : Option Mark
deriving DecidableEq

/-- What cursors lead to. -/
inductive Move where
  | answer (matched : Bool)
  | next (cursors : Cursors)
  /-- Something outside the text or the tokens was asked for. -/
  | outside
deriving DecidableEq

namespace Cursors

/-- The cursors with which matching begins. -/
def start : Cursors := ⟨0, 0, none⟩

/-- The cursors behind one more character and one more token. -/
def pass (cursors : Cursors) : Cursors :=
  { cursors with
    character := cursors.character + 1
    token := cursors.token + 1 }

/-- Goes on after a mismatch, with the last run one character longer. -/
def backtrack (cursors : Cursors) : Move :=
  match cursors.mark? with
  | none => .answer false
  | some mark =>
    .next
      ⟨mark.character + 1, mark.run + 1, some ⟨mark.run, mark.character + 1⟩⟩

/-- Takes one step in a text and the tokens of a pattern. -/
def step (text : List Char) (pattern : List Token) (cursors : Cursors) : Move :=
  if cursors.character < text.length then
    match pattern[cursors.token]? with
    | some .anyRun =>
      .next ⟨cursors.character, cursors.token + 1,
          some ⟨cursors.token, cursors.character⟩⟩
    | some .anyCharacter => .next cursors.pass
    | some (.literal expected) =>
      match text[cursors.character]? with
      | none => .outside
      | some character =>
          if expected = character then .next cursors.pass else cursors.backtrack
    | none => cursors.backtrack
  else if cursors.token ≤ pattern.length
    then .answer (onlyRuns (pattern.drop cursors.token))
  else .outside

end Cursors

end JsonApi.Like

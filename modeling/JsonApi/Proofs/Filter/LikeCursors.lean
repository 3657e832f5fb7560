import JsonApi.Filter.Like
import Mathlib.Logic.Relation

/-!
# Cursors stay within text and pattern

What is ahead of the cursors is a state of matching (`Cursors.toState`), and a
step of the cursors is a step of that state as long as they are within the text
and the tokens (`Cursors.Within.step`).  A mismatch takes both cursors back.
The rank of the state still decreases: of a run that begins, of one that is
lengthened and of a character that is passed, each leaves the quantities before
it alone.  So the cursors come to an answer, and never get outside
(`cursors_answer_within`).
-/

namespace JsonApi.Like

variable {text : List Char} {pattern : List Token} {cursors following : Cursors}

namespace Cursors

/-- The state of matching that is ahead of the cursors. -/
def toState
    (text : List Char)
    (pattern : List Token)
    (cursors : Cursors) : State :=
  ⟨text.drop cursors.character, pattern.drop cursors.token,
    cursors.mark?.map fun mark =>
      ⟨pattern.drop (mark.run + 1), text.drop mark.character⟩⟩

/-- In front of a character and a token, these are the first ones of the
state. -/
theorem toState_of_ahead
    (characterAhead : cursors.character < text.length)
    (tokenAhead : cursors.token < pattern.length) :
    cursors.toState text pattern =
      ⟨text[cursors.character] :: text.drop (cursors.character + 1),
        pattern[cursors.token] :: pattern.drop (cursors.token + 1),
        (cursors.toState text pattern).resume⟩ := by
  simp only [toState, ← List.drop_eq_getElem_cons]

variable (text pattern) in
/-- The cursors are within text and tokens, and the point to resume from is
behind a run that was passed and in text that was passed. -/
structure Within (cursors : Cursors) : Prop where
  character : cursors.character ≤ text.length
  token : cursors.token ≤ pattern.length
  passedRun : ∀ mark, cursors.mark? = some mark → mark.run < cursors.token
  resumed : ∀ mark, cursors.mark? = some mark →
    mark.character ≤ cursors.character

theorem within_start : Within text pattern start where
  character := Nat.zero_le _
  token := Nat.zero_le _
  passedRun _ isMark := nomatch isMark
  resumed _ isMark := nomatch isMark

theorem Within.coherent (within : Within text pattern cursors) :
    (cursors.toState text pattern).Coherent := by
  obtain ⟨character, token, mark?⟩ := cursors
  cases mark? with
  | none => exact True.intro
  | some mark =>
      have passedRun := within.passedRun mark rfl
      have resumed := within.resumed mark rfl
      simp only [toState, State.Coherent, Option.map_some,
        List.length_drop] at passedRun resumed ⊢
      omega

/-- Passing a character and a token keeps the cursors within. -/
theorem Within.pass
    (within : Within text pattern cursors)
    (characterAhead : cursors.character < text.length)
    (tokenAhead : cursors.token < pattern.length) :
    Within text pattern cursors.pass where
  character := characterAhead
  token := tokenAhead
  passedRun mark isMark := Nat.lt_succ_of_lt (within.passedRun mark isMark)
  resumed mark isMark := Nat.le_succ_of_le (within.resumed mark isMark)

/-- Going on right behind a run keeps the cursors within. -/
theorem within_restart
    {character run : Nat}
    (characterAhead : character ≤ text.length)
    (runAhead : run < pattern.length) :
    Within text pattern ⟨character, run + 1, some ⟨run, character⟩⟩ where
  character := characterAhead
  token := runAhead
  passedRun mark isMark := by
    cases isMark
    exact Nat.lt_succ_self run
  resumed mark isMark := by
    cases isMark
    exact Nat.le_refl character

/-- A move does what a state of matching does, and keeps the cursors within. -/
def Mirrors (text : List Char) (pattern : List Token) : Move → Outcome → Prop
  | .answer matched, outcome => outcome = .answer matched
  | .next following, outcome =>
      Within text pattern following ∧
        outcome = .next (following.toState text pattern)
  | .outside, _ => False

/-- In front of a character, cursors go back as the state ahead of them does. -/
theorem Within.backtrack
    (within : Within text pattern cursors)
    (characterAhead : cursors.character < text.length) :
    Mirrors text pattern cursors.backtrack
      (cursors.toState text pattern).backtrack := by
  obtain ⟨character, token, mark?⟩ := cursors
  cases mark? with
  | none => rfl
  | some mark =>
      have passedRun : mark.run < token := within.passedRun mark rfl
      have resumed : mark.character ≤ character := within.resumed mark rfl
      have markAhead : mark.character < text.length :=
        Nat.lt_of_le_of_lt resumed characterAhead
      refine ⟨within_restart markAhead
        (Nat.lt_of_lt_of_le passedRun within.token), ?_⟩
      simp only [toState, State.backtrack, Option.map_some,
        List.drop_eq_getElem_cons markAhead]

/-- Within text and tokens, the cursors step as the state ahead of them does. -/
theorem Within.step (within : Within text pattern cursors) :
    Mirrors text pattern (cursors.step text pattern)
      (cursors.toState text pattern).step := by
  rw [Cursors.step]
  split
  · rename_i characterAhead
    split
    · rename_i atRun
      rcases List.getElem?_eq_some_iff.mp atRun with ⟨tokenAhead, isRun⟩
      refine ⟨within_restart within.character tokenAhead, ?_⟩
      rw [toState_of_ahead characterAhead tokenAhead, isRun]
      simp only [State.step, toState, Option.map_some,
        List.drop_eq_getElem_cons characterAhead]
    · rename_i atAny
      rcases List.getElem?_eq_some_iff.mp atAny with ⟨tokenAhead, isAny⟩
      refine ⟨within.pass characterAhead tokenAhead, ?_⟩
      rw [toState_of_ahead characterAhead tokenAhead, isAny]
      rfl
    · rename_i expected atLiteral
      rcases List.getElem?_eq_some_iff.mp atLiteral with ⟨tokenAhead, isLiteral⟩
      rw [List.getElem?_eq_getElem characterAhead]
      have stepped :
          (cursors.toState text pattern).step =
            if expected = text[cursors.character]
              then .next (cursors.pass.toState text pattern)
            else (cursors.toState text pattern).backtrack := by
        rw [toState_of_ahead characterAhead tokenAhead, isLiteral]
        simp only [State.step, Token.takes, decide_eq_true_eq]
        rfl
      rw [stepped]
      dsimp only
      split
      · exact ⟨within.pass characterAhead tokenAhead, rfl⟩
      · exact within.backtrack characterAhead
    · rename_i atEnd
      have noTokens :=
        List.drop_eq_nil_of_le (List.getElem?_eq_none_iff.mp atEnd)
      have stepped :
          (cursors.toState text pattern).step =
            (cursors.toState text pattern).backtrack := by
        simp only [toState, noTokens, List.drop_eq_getElem_cons characterAhead,
          State.step]
      rw [stepped]
      exact within.backtrack characterAhead
  · rename_i atEnd
    have noCharacters := List.drop_eq_nil_of_le (Nat.le_of_not_lt atEnd)
    rw [if_pos within.token]
    simp only [Mirrors, toState, noCharacters, State.step]

variable (text pattern) in
/-- The cursors with which an iteration can begin. -/
def Reached : Cursors → Prop :=
  Relation.ReflTransGen
    (fun current following => current.step text pattern = .next following) start

/-- Whatever cursors are reached are within text and tokens. -/
theorem Reached.within (reached : Reached text pattern cursors) :
    Within text pattern cursors := by
  induction reached with
  | refl => exact within_start
  | tail _ stepped induction =>
      have mirrored := induction.step
      rw [stepped] at mirrored
      exact mirrored.1

/-- From cursors within text and tokens, some number of steps leads to the
answer of the state ahead of them. -/
theorem Within.exists_answer
    {state : State}
    (coherent : state.Coherent)
    (within : Within text pattern cursors)
    (isState : cursors.toState text pattern = state) :
    ∃ last,
      Relation.ReflTransGen
          (fun current following => current.step text pattern = .next following)
            cursors last ∧
        last.step text pattern = .answer (run state coherent) := by
  -- The induction is that of the run of the state, whose rank each step
  -- decreases.
  fun_induction run state coherent generalizing cursors with
  | case1 state coherent matched taken =>
      have mirrored := within.step
      rw [isState, taken] at mirrored
      refine ⟨cursors, .refl, ?_⟩
      cases stepped : cursors.step text pattern with
      | answer answered =>
          rw [stepped] at mirrored
          cases mirrored
          rfl
      | next following =>
          rw [stepped] at mirrored
          cases mirrored.2
      | outside =>
          rw [stepped] at mirrored
          cases mirrored
  | case2 state coherent ahead taken induction =>
      have mirrored := within.step
      rw [isState, taken] at mirrored
      cases stepped : cursors.step text pattern with
      | answer answered =>
          rw [stepped] at mirrored
          cases mirrored
      | next following =>
          rw [stepped] at mirrored
          rcases mirrored with ⟨followingWithin, same⟩
          cases same
          rcases induction followingWithin rfl with ⟨last, steps, answered⟩
          exact ⟨last, .head stepped steps, answered⟩
      | outside =>
          rw [stepped] at mirrored
          cases mirrored

end Cursors

/-- Matching with cursors comes to the answer after some number of steps.
Before each step the token cursor is at most the number of tokens, the text
cursor at most the length of the text, and the text is resumed no farther on
than at the text cursor, so that no step asks for something outside the text or
the tokens. -/
theorem cursors_answer_within (text pattern : String) :
    (∃ last, Cursors.Reached text.toList (tokens pattern.toList) last ∧
        last.step text.toList (tokens pattern.toList) =
          .answer (isMatch text pattern)) ∧
      ∀ cursors, Cursors.Reached text.toList (tokens pattern.toList) cursors →
        cursors.token ≤ (tokens pattern.toList).length ∧
          cursors.character ≤ text.toList.length ∧
          (∀ mark, cursors.mark? = some mark →
              mark.character ≤ cursors.character) ∧
          cursors.step text.toList (tokens pattern.toList) ≠ .outside := by
  constructor
  · have coherent :
        (State.initial text.toList (tokens pattern.toList)).Coherent :=
      True.intro
    exact Cursors.within_start.exists_answer coherent rfl
  · intro cursors reached
    have within := reached.within
    refine ⟨within.token, within.character, within.resumed, ?_⟩
    intro outside
    have mirrored := within.step
    rw [outside] at mirrored
    exact mirrored

/-- Where the second character is no `b`, both cursors go back by one. -/
theorem cursors_answer_within_aab :
    Cursors.Reached "aab".toList (tokens "%ab".toList) ⟨1, 2, some ⟨0, 0⟩⟩ ∧
      Cursors.Reached "aab".toList (tokens "%ab".toList) ⟨1, 1, some ⟨0, 1⟩⟩ ∧
      (∃ last, Cursors.Reached "aab".toList (tokens "%ab".toList) last ∧
        last.step "aab".toList (tokens "%ab".toList) =
          .answer (isMatch "aab" "%ab")) ∧
      Cursors.step "aab".toList (tokens "%ab".toList) ⟨1, 1, some ⟨0, 1⟩⟩ ≠
        .outside := by
  have matching := cursors_answer_within "aab" "%ab"
  have run :
      Cursors.Reached "aab".toList (tokens "%ab".toList) ⟨0, 1, some ⟨0, 0⟩⟩ :=
    .single (by decide)
  have passed :
      Cursors.Reached "aab".toList (tokens "%ab".toList) ⟨1, 2, some ⟨0, 0⟩⟩ :=
    .tail run (by decide)
  have back :
      Cursors.Reached "aab".toList (tokens "%ab".toList) ⟨1, 1, some ⟨0, 1⟩⟩ :=
    .tail passed (by decide)
  exact ⟨passed, back, matching.1, (matching.2 _ back).2.2.2⟩

end JsonApi.Like

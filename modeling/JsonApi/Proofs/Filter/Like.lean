import JsonApi.Filter.Like
import Mathlib.Data.List.Forall2

/-!
# What text patterns match

A pattern spells tokens, and each token covers some pieces of text: a run
covers every piece, and the other tokens cover pieces of one character.  A text
matches a pattern exactly if it can be cut into consecutive pieces, one for
each token and covered by it (`isMatch_iff`).

Matching remembers the last run only.  Nothing is lost by this.  Since the
point to resume from, only tokens of one character were passed
(`State.Retraceable`).  So where an earlier run could still be lengthened, the
same tokens would be passed further behind in the text, and what then has to be
matched is behind the next run as well; lengthening the next run in place of
the earlier one reaches it (`State.Retraceable.matches_of_resumable`).
-/

namespace JsonApi.Like

/-! ## Cutting a text into pieces -/

/-- A pattern spells tokens, read from left to right. -/
inductive Spells : List Char → List Token → Prop where
  | nothing : Spells [] []
  | run
      {rest : List Char}
      {tokens : List Token} :
      Spells rest tokens → Spells ('%' :: rest) (.anyRun :: tokens)
  | one
      {rest : List Char}
      {tokens : List Token} :
      Spells rest tokens → Spells ('_' :: rest) (.anyCharacter :: tokens)
  | escaped
      {rest : List Char}
      {tokens : List Token}
      (character : Char) :
      Spells rest tokens →
        Spells ('\\' :: character :: rest) (.literal character :: tokens)
  | lastBackslash : Spells ['\\'] [.literal '\\']
  | plain
      {rest : List Char}
      {tokens : List Token}
      {character : Char} :
      character ≠ '%' → character ≠ '_' → character ≠ '\\' →
      Spells rest tokens →
        Spells (character :: rest) (.literal character :: tokens)

/-- The pieces of text that a token covers. -/
inductive Token.Covers : Token → List Char → Prop where
  | anyRun (piece : List Char) : Covers .anyRun piece
  | anyCharacter (character : Char) : Covers .anyCharacter [character]
  | literal (character : Char) : Covers (.literal character) [character]

/-- A text is cut into consecutive pieces, one for each token and covered by
it. -/
def Matches (pattern : List Token) (text : List Char) : Prop :=
  ∃ pieces, List.Forall₂ Token.Covers pattern pieces ∧ pieces.flatten = text

/-- Every pattern spells the tokens that are read from it, and no others. -/
theorem spells_iff
    {pattern : List Char}
    {read : List Token} :
    Spells pattern read ↔ tokens pattern = read := by
  constructor
  · intro spells
    induction spells with
    | nothing => rfl
    | run _ induction => rw [tokens, induction]
    | one _ induction => rw [tokens, induction]
    | escaped character _ induction => rw [tokens, induction]
    | lastBackslash => rfl
    | plain notRun notOne notBackslash _ induction =>
        rw [tokens, induction]
        all_goals simp_all
  · intro isRead
    subst isRead
    fun_induction tokens pattern with
    | case1 => exact .nothing
    | case2 character rest induction => exact .escaped character induction
    | case3 rest induction => exact .run induction
    | case4 rest induction => exact .one induction
    | case5 character rest notEscaped notRun notOne induction =>
        by_cases backslash : character = '\\'
        · subst backslash
          cases rest with
          | nil => exact .lastBackslash
          | cons next rest => exact absurd rfl (notEscaped next rest rfl)
        · exact .plain notRun notOne backslash induction

/-! ## One token at a time -/

theorem Token.covers_singleton_iff
    {token : Token}
    {character : Char}
    (single : token ≠ .anyRun) :
    token.Covers [character] ↔ token.takes character = true := by
  cases token with
  | anyRun => exact absurd rfl single
  | anyCharacter => exact ⟨fun _ => rfl, fun _ => .anyCharacter character⟩
  | literal expected =>
      simp only [Token.takes, decide_eq_true_eq]
      constructor
      · intro covers
        cases covers
        rfl
      · intro same
        exact same ▸ .literal expected

/-- A token other than a run covers pieces of one character. -/
theorem Token.Covers.exists_singleton
    {token : Token}
    {piece : List Char}
    (covers : token.Covers piece)
    (single : token ≠ .anyRun) :
    ∃ character, piece = [character] := by
  cases covers with
  | anyRun => exact absurd rfl single
  | anyCharacter character => exact ⟨character, rfl⟩
  | literal character => exact ⟨character, rfl⟩

theorem matches_nil_iff {text : List Char} : Matches [] text ↔ text = [] := by
  constructor
  · rintro ⟨pieces, covered, rfl⟩
    cases covered
    rfl
  · rintro rfl
    exact ⟨[], .nil, rfl⟩

theorem matches_cons_iff
    {token : Token}
    {pattern : List Token}
    {text : List Char} :
    Matches (token :: pattern) text ↔
      ∃ piece rest, token.Covers piece ∧ Matches pattern rest ∧
        piece ++ rest = text := by
  constructor
  · rintro ⟨pieces, covered, rfl⟩
    cases covered with
    | cons first others => exact ⟨_, _, first, ⟨_, others, rfl⟩, rfl⟩
  · rintro ⟨piece, rest, first, ⟨pieces, others, rfl⟩, rfl⟩
    exact ⟨piece :: pieces, .cons first others, rfl⟩

/-- A run is followed by something that ends where the text ends. -/
theorem matches_run_iff
    {pattern : List Token}
    {text : List Char} :
    Matches (.anyRun :: pattern) text ↔
      ∃ rest, rest <:+ text ∧ Matches pattern rest := by
  rw [matches_cons_iff]
  constructor
  · rintro ⟨piece, rest, _, matched, whole⟩
    exact ⟨rest, ⟨piece, whole⟩, matched⟩
  · rintro ⟨rest, ⟨piece, whole⟩, matched⟩
    exact ⟨piece, rest, .anyRun piece, matched, whole⟩

/-- A token other than a run is followed by what is behind one character. -/
theorem matches_single_iff
    {token : Token}
    {pattern : List Token}
    {text : List Char}
    (single : token ≠ .anyRun) :
    Matches (token :: pattern) text ↔
      ∃ character rest, text = character :: rest ∧
        token.takes character = true ∧
        Matches pattern rest := by
  rw [matches_cons_iff]
  constructor
  · rintro ⟨piece, rest, covers, matched, rfl⟩
    rcases covers.exists_singleton single with ⟨character, rfl⟩
    exact ⟨character, rest, rfl, (Token.covers_singleton_iff single).mp covers,
      matched⟩
  · rintro ⟨character, rest, rfl, taken, matched⟩
    exact ⟨[character], rest, (Token.covers_singleton_iff single).mpr taken,
      matched, rfl⟩

/-- Only runs match the empty text. -/
theorem matches_empty_iff {pattern : List Token} :
    Matches pattern [] ↔ onlyRuns pattern = true := by
  induction pattern with
  | nil => simp [matches_nil_iff, onlyRuns]
  | cons token pattern induction =>
      by_cases isRun : token = .anyRun
      · subst isRun
        rw [matches_run_iff]
        simp [List.suffix_nil, induction, onlyRuns]
      · simp [matches_single_iff isRun, onlyRuns, isRun]

/-- Tokens other than runs take as many characters as there are tokens. -/
theorem Matches.behind_passed
    {passed pattern : List Token}
    {text : List Char}
    (singles : .anyRun ∉ passed)
    (matched : Matches (passed ++ pattern) text) :
    ∃ rest, rest <:+ text ∧ rest.length + passed.length = text.length ∧
      Matches pattern rest := by
  induction passed generalizing text with
  | nil => exact ⟨text, List.suffix_refl text, rfl, matched⟩
  | cons token passed induction =>
      have single : token ≠ .anyRun := fun isRun =>
        singles (isRun ▸ List.mem_cons_self)
      rcases (matches_single_iff single).mp matched with
        ⟨character, behind, rfl, _, others⟩
      rcases induction (fun member =>
          singles (List.mem_cons_of_mem token member)) others with
        ⟨rest, isSuffix, lengths, matchedRest⟩
      refine ⟨rest, isSuffix.trans (List.suffix_cons character behind), ?_,
        matchedRest⟩
      simp only [List.length_cons]
      omega

/-! ## What is still possible in a state -/

/-- Only tokens of one character were passed since the point to resume from. -/
def State.Retraceable (state : State) : Prop :=
  ∀ resume, state.resume = some resume →
    ∃ passed characters, .anyRun ∉ passed ∧ passed.length = characters.length ∧
      resume.pattern = passed ++ state.pattern ∧
        resume.text = characters ++ state.text

/-- What is matched when the last run covers at least one more character. -/
def State.Resumable (state : State) : Prop :=
  ∃ resume character rest, state.resume = some resume ∧
    resume.text = character :: rest ∧
    Matches (.anyRun :: resume.pattern) rest

/-- The text ahead matches the tokens ahead, or does so once the last run is
lengthened. -/
def State.Matchable (state : State) : Prop :=
  Matches state.pattern state.text ∨ state.Resumable

/-- What is matched when the last run is lengthened is also matched when it is
not: what is ahead is matched without its first part. -/
theorem State.Retraceable.exists_suffix
    {state : State}
    (retraceable : state.Retraceable)
    (resumable : state.Resumable) :
    ∃ rest, rest <:+ state.text ∧ rest ≠ state.text ∧
      Matches state.pattern rest := by
  rcases resumable with ⟨resume, character, behind, isResume, isText, matched⟩
  rcases retraceable resume isResume with
    ⟨passed, characters, singles, lengths, isPattern, isAhead⟩
  rcases matches_run_iff.mp matched with ⟨started, isSuffix, startedMatches⟩
  rw [isPattern] at startedMatches
  rcases startedMatches.behind_passed singles with
    ⟨rest, restSuffix, restLength, restMatches⟩
  -- Both `rest` and the text ahead end the text at the point to resume from;
  -- `rest` is shorter.
  have shorter : rest.length < state.text.length := by
    have total := congrArg List.length (isText.symm.trans isAhead)
    have bound := isSuffix.length_le
    simp only [List.length_cons, List.length_append] at total
    omega
  have restEnds : rest <:+ resume.text := by
    rw [isText]
    exact restSuffix.trans (isSuffix.trans (List.suffix_cons character behind))
  have aheadEnds : state.text <:+ resume.text := by
    rw [isAhead]
    exact List.suffix_append characters state.text
  refine ⟨rest,
    List.suffix_of_suffix_length_le restEnds aheadEnds (Nat.le_of_lt shorter),
    ?_, restMatches⟩
  intro same
  rw [same] at shorter
  exact Nat.lt_irrefl _ shorter

/-- Once the text is at its end, no run can be lengthened. -/
theorem State.Retraceable.not_resumable
    {state : State}
    (retraceable : state.Retraceable)
    (ended : state.text = []) :
    ¬ state.Resumable := by
  intro resumable
  rcases retraceable.exists_suffix resumable with ⟨rest, isSuffix, differs, _⟩
  rw [ended, List.suffix_nil] at isSuffix
  exact differs (isSuffix.trans ended.symm)

/-- At a run, lengthening the run before it is no longer of use. -/
theorem State.Retraceable.matches_of_resumable
    {state : State}
    {pattern : List Token}
    (retraceable : state.Retraceable)
    (atRun : state.pattern = .anyRun :: pattern)
    (resumable : state.Resumable) :
    Matches state.pattern state.text := by
  rcases retraceable.exists_suffix resumable with ⟨rest, isSuffix, _, matched⟩
  rw [atRun, matches_run_iff] at matched ⊢
  rcases matched with ⟨further, furtherSuffix, furtherMatches⟩
  exact ⟨further, furtherSuffix.trans isSuffix, furtherMatches⟩

/-! ## Steps -/

/-- A run covers nothing here, or one character more. -/
theorem matches_run_cases
    {pattern : List Token}
    {text : List Char} :
    Matches (.anyRun :: pattern) text ↔
      Matches pattern text ∨
        ∃ character rest, text = character :: rest ∧
          Matches (.anyRun :: pattern) rest := by
  simp only [matches_run_iff]
  cases text with
  | nil => simp [List.suffix_nil]
  | cons character rest => simp [List.suffix_cons_iff, or_and_right, exists_or]

/-- What a step does: it answers at the end of the text, begins a run, passes a
character, or finds that the text ahead does not match and goes back. -/
theorem State.step_cases (state : State) :
    (state.text = [] ∧ state.step = .answer (onlyRuns state.pattern)) ∨
      (∃ pattern, state.pattern = .anyRun :: pattern ∧
        state.step = .next ⟨state.text, pattern, some ⟨pattern, state.text⟩⟩) ∨
      (∃ token pattern character text,
        state.pattern = token :: pattern ∧ state.text = character :: text ∧
          token.takes character = true ∧
            state.step = .next ⟨text, pattern, state.resume⟩) ∨
      (¬ Matches state.pattern state.text ∧ state.step = state.backtrack) := by
  obtain ⟨text, pattern, resume⟩ := state
  cases text with
  | nil => exact .inl ⟨rfl, rfl⟩
  | cons character text =>
      cases pattern with
      | nil => exact .inr (.inr (.inr ⟨by simp [matches_nil_iff], rfl⟩))
      | cons token pattern =>
          by_cases isRun : token = .anyRun
          · subst isRun
            exact .inr (.inl ⟨pattern, rfl, rfl⟩)
          · have stepped :
                State.step ⟨character :: text, token :: pattern, resume⟩ =
                  if token.takes character then .next ⟨text, pattern, resume⟩
                  else State.backtrack
                    ⟨character :: text, token :: pattern, resume⟩ := by
              cases token with
              | anyRun => exact absurd rfl isRun
              | anyCharacter => rfl
              | literal expected => rfl
            cases taken : token.takes character with
            | true =>
                refine .inr (.inr (.inl
                    ⟨token, pattern, character, text, rfl, rfl, taken, ?_⟩))
                rw [stepped, taken, if_pos rfl]
            | false =>
                refine .inr (.inr (.inr ⟨?_, ?_⟩))
                · simp [matches_single_iff isRun, taken]
                · rw [stepped, taken]
                  rfl

/-- Beginning a run keeps what is matchable. -/
theorem State.Retraceable.matchable_run
    {state : State}
    {pattern : List Token}
    (retraceable : state.Retraceable)
    (atRun : state.pattern = .anyRun :: pattern) :
    State.Matchable ⟨state.text, pattern, some ⟨pattern, state.text⟩⟩ ↔
      state.Matchable := by
  have begun :
      State.Matchable ⟨state.text, pattern, some ⟨pattern, state.text⟩⟩ ↔
        Matches state.pattern state.text := by
    rw [atRun, matches_run_cases]
    simp [State.Matchable, State.Resumable]
  rw [begun]
  exact ⟨.inl,
    fun matchable => matchable.elim id (retraceable.matches_of_resumable atRun)⟩

/-- Passing a character keeps what is matchable. -/
theorem State.matchable_pass
    {state : State}
    {token : Token}
    {pattern : List Token}
    {character : Char}
    {text : List Char}
    (atToken : state.pattern = token :: pattern)
    (ahead : state.text = character :: text)
    (taken : token.takes character = true) :
    State.Matchable ⟨text, pattern, state.resume⟩ ↔ state.Matchable := by
  have single : token ≠ .anyRun := by
    rintro rfl
    cases taken
  simp [State.Matchable, State.Resumable, atToken, ahead,
    matches_single_iff single, taken]

/-- Passing a character keeps the way back. -/
theorem State.Retraceable.pass
    {state : State}
    {token : Token}
    {pattern : List Token}
    {character : Char}
    {text : List Char}
    (retraceable : state.Retraceable)
    (atToken : state.pattern = token :: pattern)
    (ahead : state.text = character :: text)
    (taken : token.takes character = true) :
    State.Retraceable ⟨text, pattern, state.resume⟩ := by
  intro resume isResume
  rcases retraceable resume isResume with
    ⟨passed, characters, singles, lengths, isPattern, isText⟩
  refine ⟨passed ++ [token], characters ++ [character],
    ?_, by simp [lengths], ?_, ?_⟩
  · rw [List.mem_append, List.mem_singleton]
    rintro (member | rfl)
    · exact singles member
    · cases taken
  · simp [isPattern, atToken]
  · simp [isText, ahead]

theorem State.retraceable_restart
    (pattern : List Token)
    (text : List Char) :
    State.Retraceable ⟨text, pattern, some ⟨pattern, text⟩⟩ := by
  intro resume isResume
  cases isResume
  exact ⟨[], [], by simp, rfl, rfl, rfl⟩

/-- Where to go on after a mismatch is decided by what is matched once the last
run is lengthened. -/
theorem State.backtrack_cases (state : State) :
    (state.backtrack = .answer false ∧ ¬ state.Resumable) ∨
      ∃ pattern text,
        state.backtrack = .next ⟨text, pattern, some ⟨pattern, text⟩⟩ ∧
          (State.Matchable ⟨text, pattern, some ⟨pattern, text⟩⟩ ↔
              state.Resumable) := by
  obtain ⟨text, pattern, resume⟩ := state
  match resume with
  | none => exact .inl ⟨rfl, by simp [State.Resumable]⟩
  | some ⟨behind, []⟩ => exact .inl ⟨rfl, by simp [State.Resumable]⟩
  | some ⟨behind, character :: rest⟩ =>
      refine .inr ⟨behind, rest, rfl, ?_⟩
      have resumed :
          State.Resumable ⟨text, pattern, some ⟨behind, character :: rest⟩⟩ ↔
            Matches (.anyRun :: behind) rest := by
        simp [State.Resumable]
      rw [resumed, matches_run_cases]
      simp [State.Matchable, State.Resumable]

/-- An answer tells whether the state was matchable. -/
theorem State.Retraceable.answer_iff
    {state : State}
    {matched : Bool}
    (retraceable : state.Retraceable)
    (taken : state.step = .answer matched) :
    matched = true ↔ state.Matchable := by
  rcases state.step_cases with
    ⟨ended, stepped⟩ | ⟨_, _, stepped⟩ | ⟨_, _, _, _, _, _, _, stepped⟩ |
      ⟨mismatch, stepped⟩
  · rw [stepped] at taken
    cases taken
    rw [State.Matchable, ended, matches_empty_iff]
    exact ⟨.inl, fun matchable => matchable.elim id fun resumable =>
      absurd resumable (retraceable.not_resumable ended)⟩
  · rw [stepped] at taken
    cases taken
  · rw [stepped] at taken
    cases taken
  · rcases state.backtrack_cases with ⟨answered, stuck⟩ | ⟨_, _, restarted, _⟩
    · rw [stepped, answered] at taken
      cases taken
      simp [State.Matchable, mismatch, stuck]
    · rw [stepped, restarted] at taken
      cases taken

/-- A step keeps the way back and what is matchable. -/
theorem State.Retraceable.next_iff
    {state following : State}
    (retraceable : state.Retraceable)
    (taken : state.step = .next following) :
    following.Retraceable ∧ (following.Matchable ↔ state.Matchable) := by
  rcases state.step_cases with
    ⟨_, stepped⟩ | ⟨_, atRun, stepped⟩ |
      ⟨_, _, _, _, atToken, ahead, takes, stepped⟩ |
      ⟨mismatch, stepped⟩
  · rw [stepped] at taken
    cases taken
  · rw [stepped] at taken
    cases taken
    exact ⟨retraceable_restart _ _, retraceable.matchable_run atRun⟩
  · rw [stepped] at taken
    cases taken
    exact ⟨retraceable.pass atToken ahead takes,
      matchable_pass atToken ahead takes⟩
  · rcases state.backtrack_cases with ⟨answered, _⟩ | ⟨_, _, restarted, resumes⟩
    · rw [stepped, answered] at taken
      cases taken
    · rw [stepped, restarted] at taken
      cases taken
      refine ⟨retraceable_restart _ _, resumes.trans ?_⟩
      simp [State.Matchable, mismatch]

/-! ## Runs -/

/-- A run answers whether the state in which it began was matchable. -/
theorem run_iff
    {state : State}
    (coherent : state.Coherent)
    (retraceable : state.Retraceable) :
    run state coherent = true ↔ state.Matchable := by
  fun_induction run state coherent with
  | case1 state _ matched taken => exact retraceable.answer_iff taken
  | case2 state _ following taken induction =>
      have kept := retraceable.next_iff taken
      exact (induction kept.1).trans kept.2

/-- A text matches a pattern exactly if it can be cut into consecutive pieces,
one for each token that the pattern spells and covered by it. -/
theorem isMatch_iff (text pattern : String) :
    isMatch text pattern = true ↔
      ∃ tokens, Spells pattern.toList tokens ∧
        ∃ pieces, List.Forall₂ Token.Covers tokens pieces ∧
          pieces.flatten = text.toList := by
  have coherent :
      (State.initial text.toList (tokens pattern.toList)).Coherent := trivial
  have retraceable :
      (State.initial text.toList (tokens pattern.toList)).Retraceable := by
    intro resume isResume
    cases isResume
  calc
    isMatch text pattern = true ↔
        (State.initial text.toList (tokens pattern.toList)).Matchable :=
      run_iff coherent retraceable
    _ ↔ Matches (tokens pattern.toList) text.toList := by
      simp [State.Matchable, State.Resumable, State.initial]
    _ ↔
      ∃ tokens, Spells pattern.toList tokens ∧ Matches tokens text.toList := by
      simp [spells_iff]

end JsonApi.Like

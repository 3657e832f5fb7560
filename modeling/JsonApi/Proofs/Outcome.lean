import Mathlib.Data.List.Basic

/-!
# Outcomes of computations that may fail

`Outcome wanted tolerated` says of a computation that its result, if it has
one, is wanted, and that its error, if it fails, is tolerated.  Tolerating no
error makes this total correctness, tolerating every error makes it partial
correctness, and one statement about a step serves both.

A loop that stops at the first error keeps an invariant about the items handled
so far, or reports one item before which everything is sound, which is what
`FirstFault` says of the error (`Outcome.foldlM_firstFault`,
`Outcome.mapM_firstFault`).  What is sound, and what is at fault, may depend on
the items that went before; there is one such error only (`FirstFault.unique`).
-/

namespace JsonApi

variable {ε α β : Type}

/-- The result is wanted, or else the error is tolerated. -/
def Outcome (wanted : α → Prop) (tolerated : ε → Prop) : Except ε α → Prop
  | .ok result => wanted result
  | .error error => tolerated error

namespace Outcome

@[simp]
theorem ok_iff
    {wanted : α → Prop}
    {tolerated : ε → Prop}
    {result : α} :
    Outcome wanted tolerated (.ok result) ↔ wanted result :=
  Iff.rfl

@[simp]
theorem error_iff
    {wanted : α → Prop}
    {tolerated : ε → Prop}
    {error : ε} :
    Outcome wanted tolerated (.error error) ↔ tolerated error :=
  Iff.rfl

/-- The result of a computation that succeeded is wanted. -/
theorem of_ok
    {wanted : α → Prop}
    {tolerated : ε → Prop}
    {computation : Except ε α}
    {result : α}
    (outcome : Outcome wanted tolerated computation)
    (succeeded : computation = .ok result) :
    wanted result := by
  subst succeeded
  exact outcome

/-- A computation none of whose errors is tolerated succeeds. -/
theorem exists_ok
    {wanted : α → Prop}
    {computation : Except ε α}
    (outcome : Outcome wanted (fun _ => False) computation) :
    ∃ result, computation = .ok result ∧ wanted result := by
  cases computation with
  | ok result => exact ⟨result, rfl, outcome⟩
  | error error => exact outcome.elim

theorem imp
    {wanted widened : α → Prop}
    {tolerated excused : ε → Prop}
    {computation : Except ε α}
    (outcome : Outcome wanted tolerated computation)
    (widen : ∀ result, wanted result → widened result)
    (excuse : ∀ error, tolerated error → excused error) :
    Outcome widened excused computation := by
  cases computation with
  | ok result => exact widen result outcome
  | error error => exact excuse error outcome

theorem mono
    {wanted widened : α → Prop}
    {tolerated : ε → Prop}
    {computation : Except ε α}
    (outcome : Outcome wanted tolerated computation)
    (widen : ∀ result, wanted result → widened result) :
    Outcome widened tolerated computation :=
  outcome.imp widen fun _ isTolerated => isTolerated

/-- If every result and every error will do, every computation has the
outcome. -/
theorem trivial (computation : Except ε α) :
    Outcome (fun _ => True) (fun _ => True) computation := by
  cases computation with
  | ok result => exact True.intro
  | error error => exact True.intro

/-- What else holds of the result may be shown without regard to errors. -/
theorem and
    {wanted other : α → Prop}
    {tolerated : ε → Prop}
    {computation : Except ε α}
    (first : Outcome wanted tolerated computation)
    (second : Outcome other (fun _ => True) computation) :
    Outcome (fun result => wanted result ∧ other result) tolerated
      computation := by
  cases computation with
  | ok result => exact ⟨first, second⟩
  | error error => exact first

theorem bind
    {wanted : α → Prop}
    {next : β → Prop}
    {tolerated : ε → Prop}
    {computation : Except ε α}
    {continuation : α → Except ε β}
    (first : Outcome wanted tolerated computation)
    (second : ∀ result, wanted result →
      Outcome next tolerated (continuation result)) :
    Outcome next tolerated (computation >>= continuation) := by
  cases computation with
  | ok result => exact second result first
  | error error => exact first

theorem map_imp
    {wanted : α → Prop}
    {next : β → Prop}
    {tolerated excused : ε → Prop}
    {computation : Except ε α}
    {change : α → β}
    (outcome : Outcome wanted tolerated computation)
    (widen : ∀ result, wanted result → next (change result))
    (excuse : ∀ error, tolerated error → excused error) :
    Outcome next excused (computation.map change) := by
  cases computation with
  | ok result => exact widen result outcome
  | error error => exact excuse error outcome

theorem map
    {tolerated : ε → Prop}
    {computation : Except ε α}
    {change : α → β}
    (outcome : Outcome (fun _ => True) tolerated computation) :
    Outcome (fun _ => True) tolerated (computation.map change) :=
  outcome.map_imp (fun _ _ => True.intro) fun _ isTolerated => isTolerated

/-- A computation fails with the tolerated error, if that is unwanted and there
is no other. -/
theorem eq_error_iff
    {wanted : α → Prop}
    {tolerated : ε → Prop}
    {computation : Except ε α}
    (outcome : Outcome wanted tolerated computation)
    (exclusive : ∀ result error, wanted result → ¬tolerated error)
    (unique : ∀ error other, tolerated error → tolerated other → error = other)
    (error : ε) :
    computation = .error error ↔ tolerated error := by
  cases computation with
  | ok result =>
      exact iff_of_false (fun failed => nomatch failed)
        (exclusive result error outcome)
  | error other =>
      rw [Except.error.injEq]
      constructor
      · rintro rfl
        exact outcome
      · exact unique other error outcome

/-- A computation succeeds exactly where its errors are not tolerated. -/
theorem exists_ok_iff
    {wanted : Prop}
    {tolerated : ε → Prop}
    {computation : Except ε α}
    (outcome : Outcome (fun _ => wanted) tolerated computation)
    (exclusive : ∀ error, tolerated error → ¬wanted) :
    (∃ result, computation = .ok result) ↔ wanted := by
  cases computation with
  | ok result => exact iff_of_true ⟨result, rfl⟩ outcome
  | error error =>
      exact iff_of_false (fun ⟨_, succeeded⟩ => nomatch succeeded)
        (exclusive error outcome)

end Outcome

/-! ## The first item at fault -/

/-- The error is that of an item before which everything is sound. -/
def FirstFault
    (sound : List α → Prop)
    (fault : List α → α → ε → Prop)
    (items : List α)
    (error : ε) : Prop :=
  ∃ earlier item later, items = earlier ++ item :: later ∧ sound earlier ∧
    fault earlier item error

namespace FirstFault

variable {sound : List α → Prop} {fault : List α → α → ε → Prop}
  {items : List α} {error : ε}

theorem append_right
    (first : FirstFault sound fault items error)
    (others : List α) :
    FirstFault sound fault (items ++ others) error := by
  rcases first with ⟨earlier, item, later, rfl, isSound, isFault⟩
  exact ⟨earlier, item, later ++ others, by simp, isSound, isFault⟩

/-- Where items are sound one by one, a fault behind sound items is the first
one. -/
theorem append_left
    {good : α → Prop}
    {bad : α → ε → Prop}
    {before : List α}
    (allGood : ∀ item ∈ before, good item)
    (first : FirstFault (fun earlier => ∀ item ∈ earlier, good item)
      (fun _ => bad) items error) :
    FirstFault (fun earlier => ∀ item ∈ earlier, good item) (fun _ => bad)
      (before ++ items) error := by
  rcases first with ⟨earlier, item, later, rfl, earlierGood, isBad⟩
  exact ⟨before ++ earlier, item, later, by simp,
    List.forall_mem_append.mpr ⟨allGood, earlierGood⟩, isBad⟩

/-- Items with a fault among them are not sound. -/
theorem not_sound
    (exclusive : ∀ earlier item later error, fault earlier item error →
      ¬sound (earlier ++ item :: later))
    (first : FirstFault sound fault items error) :
    ¬sound items := by
  rcases first with ⟨earlier, item, later, rfl, _, isFault⟩
  exact exclusive earlier item later error isFault

/-- Behind a fault there is no other that is the first one. -/
theorem eq_of_behind
    {earlier between later otherLater : List α}
    {item otherItem : α}
    {other : ε}
    (exclusive : ∀ earlier item later error, fault earlier item error →
      ¬sound (earlier ++ item :: later))
    (functional : ∀ earlier item error other, fault earlier item error →
      fault earlier item other → error = other)
    (rest : item :: later = between ++ otherItem :: otherLater)
    (isFault : fault earlier item error)
    (otherSound : sound (earlier ++ between))
    (otherFault : fault (earlier ++ between) otherItem other) :
    error = other := by
  cases between with
  | nil =>
      cases rest
      rw [List.append_nil] at otherFault
      exact functional earlier item error other isFault otherFault
  | cons head between =>
      cases rest
      exact absurd otherSound (exclusive earlier item between error isFault)

/-- No two errors are those of the first item at fault. -/
theorem unique
    {other : ε}
    (exclusive : ∀ earlier item later error, fault earlier item error →
      ¬sound (earlier ++ item :: later))
    (functional : ∀ earlier item error other, fault earlier item error →
      fault earlier item other → error = other)
    (first : FirstFault sound fault items error)
    (second : FirstFault sound fault items other) :
    error = other := by
  rcases first with ⟨earlier, item, later, rfl, isSound, isFault⟩
  rcases second with
    ⟨otherEarlier, otherItem, otherLater, same, otherSound, otherFault⟩
  rcases List.append_eq_append_iff.mp same with
    ⟨between, rfl, rest⟩ | ⟨between, rfl, rest⟩
  · exact eq_of_behind exclusive functional rest isFault otherSound otherFault
  · exact (eq_of_behind exclusive functional rest otherFault isSound
        isFault).symm

end FirstFault

/-! ## Loops -/

namespace Outcome

/-- A loop that stops at the first error reports the first item at fault, if an
invariant about the items handled so far is kept as long as they are sound. -/
theorem foldlM_firstFault
    {step : β → α → Except ε β}
    {items : List α}
    {start : β}
    {sound : List α → Prop}
    {fault : List α → α → ε → Prop}
    (invariant : List α → β → Prop)
    (steps : ∀ earlier item later state, items = earlier ++ item :: later →
      invariant earlier state →
        Outcome (invariant (earlier ++ [item])) (fault earlier item)
          (step state item))
    (isSound : ∀ earlier state, invariant earlier state → sound earlier)
    (begun : invariant [] start) :
    Outcome (invariant items) (FirstFault sound fault items)
      (items.foldlM step start) := by
  -- By induction on what remains, while the invariant speaks of what was
  -- handled.
  have general :
      ∀ remaining handled state, items = handled ++ remaining →
        invariant handled state →
        Outcome (invariant items) (FirstFault sound fault items)
          (remaining.foldlM step state) := by
    intro remaining
    induction remaining with
    | nil =>
        intro handled state split holds
        rw [List.append_nil] at split
        rw [split]
        exact holds
    | cons item remaining induction =>
        intro handled state split holds
        rw [List.foldlM_cons]
        have stepped := steps handled item remaining state split holds
        cases result : step state item with
        | error error =>
            rw [result] at stepped
            exact ⟨handled, item, remaining, split, isSound handled state holds,
              stepped⟩
        | ok next =>
            rw [result] at stepped
            exact induction (handled ++ [item]) next (by simpa using split)
              stepped
  exact general items [] start rfl begun

/-- A loop keeps an invariant that each of its steps keeps. -/
theorem foldlM
    {step : β → α → Except ε β}
    {items : List α}
    {start : β}
    {tolerated : ε → Prop}
    (invariant : List α → β → Prop)
    (steps :
      ∀ handled item state, item ∈ items → invariant handled state →
        Outcome (invariant (handled ++ [item])) tolerated (step state item))
    (begun : invariant [] start) :
    Outcome (invariant items) tolerated (items.foldlM step start) := by
  have loop :
      Outcome (invariant items)
        (FirstFault (fun _ => True) (fun _ _ => tolerated) items)
        (items.foldlM step start) := by
    refine foldlM_firstFault invariant ?_ (fun _ _ _ => True.intro) begun
    intro earlier item later state split holds
    exact steps earlier item state (by simp [split]) holds
  refine loop.imp (fun _ holds => holds) ?_
  rintro error ⟨_, _, _, _, _, isTolerated⟩
  exact isTolerated

/-- A loop over changed states runs like the loop itself, if each of its steps
does so wherever an invariant holds. -/
theorem foldlM_map
    {γ : Type}
    {step : β → α → Except ε β}
    {other : γ → α → Except ε γ}
    {change : β → γ}
    {items : List α}
    {start : β}
    (invariant : β → Prop)
    (keeps : ∀ item ∈ items, ∀ state, invariant state →
      Outcome invariant (fun _ => True) (step state item))
    (steps : ∀ item ∈ items, ∀ state, invariant state →
      other (change state) item = (step state item).map change)
    (begun : invariant start) :
    items.foldlM other (change start) =
      (items.foldlM step start).map change := by
  induction items generalizing start with
  | nil => rfl
  | cons item items induction =>
      rw [List.foldlM_cons, List.foldlM_cons,
        steps item List.mem_cons_self start begun]
      have kept := keeps item List.mem_cons_self start begun
      cases stepped : step start item with
      | error error => rfl
      | ok next =>
          rw [stepped] at kept
          exact induction (fun other member =>
              keeps other (List.mem_cons_of_mem item member))
            (fun other member => steps other (List.mem_cons_of_mem item member))
            kept

/-- Mapping a list reports the first item at fault. -/
theorem mapM_firstFault
    {step : α → Except ε β}
    {good : α → Prop}
    {bad : α → ε → Prop}
    {items : List α}
    (steps :
      ∀ item ∈ items, Outcome (fun _ => good item) (bad item) (step item)) :
    Outcome (fun _ => ∀ item ∈ items, good item)
      (FirstFault (fun earlier => ∀ item ∈ earlier, good item) (fun _ => bad)
          items)
      (items.mapM step) := by
  induction items with
  | nil => exact List.forall_mem_nil _
  | cons item items induction =>
      rcases List.forall_mem_cons.mp steps with ⟨first, others⟩
      have rest := induction others
      rw [List.mapM_cons]
      cases made : step item with
      | error error =>
          rw [made] at first
          exact ⟨[], item, items, rfl, List.forall_mem_nil _, first⟩
      | ok result =>
          rw [made] at first
          cases madeRest : items.mapM step with
          | error error =>
              rw [madeRest] at rest
              have alone : ∀ other ∈ [item], good other :=
                List.forall_mem_singleton.mpr first
              exact FirstFault.append_left alone rest
          | ok results =>
              rw [madeRest] at rest
              exact List.forall_mem_cons.mpr ⟨first, rest⟩

/-- Mapping a list succeeds when it does so for every item. -/
theorem mapM
    {step : α → Except ε β}
    {items : List α}
    {tolerated : ε → Prop}
    (steps : ∀ item ∈ items, Outcome (fun _ => True) tolerated (step item)) :
    Outcome (fun _ => True) tolerated (items.mapM step) := by
  have mapped :
      Outcome (fun _ => ∀ item ∈ items, True)
        (FirstFault (fun earlier => ∀ item ∈ earlier, True)
            (fun _ _ => tolerated) items)
        (items.mapM step) :=
    mapM_firstFault steps
  refine mapped.imp (fun _ _ => True.intro) ?_
  rintro error ⟨_, _, _, _, _, isTolerated⟩
  exact isTolerated

/-! ## Reading a success back -/

theorem bind_eq_ok_iff
    {computation : Except ε α}
    {continuation : α → Except ε β}
    {final : β} :
    computation >>= continuation = .ok final ↔
      ∃ result, computation = .ok result ∧ continuation result = .ok final := by
  cases computation with
  | ok result =>
      constructor
      · intro succeeded
        exact ⟨result, rfl, succeeded⟩
      · rintro ⟨_, equal, succeeded⟩
        cases equal
        exact succeeded
  | error error =>
      constructor
      · intro succeeded
        cases succeeded
      · rintro ⟨_, equal, _⟩
        cases equal

theorem map_eq_ok_iff
    {computation : Except ε α}
    {change : α → β}
    {final : β} :
    computation.map change = .ok final ↔
      ∃ result, computation = .ok result ∧ change result = final := by
  cases computation <;> simp [Except.map]

/-- Two computations with the same mapped outcome fail alike or succeed
alike. -/
theorem map_eq_map_cases
    {γ : Type}
    {first : Except ε α}
    {second : Except ε β}
    {change : α → γ}
    {other : β → γ}
    (same : first.map change = second.map other) :
    (∃ error, first = .error error ∧ second = .error error) ∨
      ∃ result another, first = .ok result ∧ second = .ok another ∧
        change result = other another := by
  cases first with
  | error error =>
      cases second with
      | error another =>
          cases same
          exact Or.inl ⟨error, rfl, rfl⟩
      | ok another => cases same
  | ok result =>
      cases second with
      | error another => cases same
      | ok another =>
          exact Or.inr ⟨result, another, rfl, rfl, Except.ok.inj same⟩

theorem mapError_eq_ok_iff
    {γ : Type}
    {computation : Except ε α}
    {change : ε → γ}
    {final : α} :
    computation.mapError change = .ok final ↔ computation = .ok final := by
  cases computation with
  | ok result =>
      constructor
      · intro succeeded
        cases succeeded
        rfl
      · intro succeeded
        cases succeeded
        rfl
  | error error =>
      constructor
      · intro succeeded
        cases succeeded
      · intro succeeded
        cases succeeded

theorem mapError_eq_error_iff
    {γ : Type}
    {computation : Except ε α}
    {change : ε → γ}
    {final : γ} :
    computation.mapError change = .error final ↔
      ∃ error, computation = .error error ∧ change error = final := by
  cases computation with
  | ok result =>
      constructor
      · intro failed
        cases failed
      · rintro ⟨_, failed, _⟩
        cases failed
  | error error =>
      constructor
      · intro failed
        cases failed
        exact ⟨error, rfl, rfl⟩
      · rintro ⟨_, failed, isFinal⟩
        cases failed
        cases isFinal
        rfl

/-- Every result of a mapped list belongs to an item. -/
theorem mem_of_mapM_eq_ok
    {step : α → Except ε β}
    {items : List α}
    {results : List β}
    (succeeded : items.mapM step = .ok results)
    {result : β}
    (member : result ∈ results) :
    ∃ item ∈ items, step item = .ok result := by
  induction items generalizing results with
  | nil =>
      rw [List.mapM_nil] at succeeded
      cases succeeded
      cases member
  | cons item items induction =>
      rw [List.mapM_cons, bind_eq_ok_iff] at succeeded
      rcases succeeded with ⟨first, firstOk, rest⟩
      rw [bind_eq_ok_iff] at rest
      rcases rest with ⟨others, othersOk, equal⟩
      cases equal
      rcases List.mem_cons.mp member with head | tail
      · subst head
        exact ⟨item, List.mem_cons_self, firstOk⟩
      · rcases induction othersOk tail with ⟨source, sourceMember, sourceOk⟩
        exact ⟨source, List.mem_cons_of_mem item sourceMember, sourceOk⟩

/-- If a list was mapped, every item of it was. -/
theorem exists_of_mapM_eq_ok
    {step : α → Except ε β}
    {items : List α}
    {results : List β}
    (succeeded : items.mapM step = .ok results)
    {item : α}
    (member : item ∈ items) :
    ∃ result, step item = .ok result := by
  induction items generalizing results with
  | nil => cases member
  | cons first items induction =>
      rw [List.mapM_cons, bind_eq_ok_iff] at succeeded
      rcases succeeded with ⟨result, firstOk, rest⟩
      rcases bind_eq_ok_iff.mp rest with ⟨others, othersOk, _⟩
      rcases List.mem_cons.mp member with head | tail
      · exact ⟨result, head ▸ firstOk⟩
      · exact induction othersOk tail

theorem mem_of_mapM_eq_some
    {step : α → Option β}
    {items : List α}
    {results : List β}
    (succeeded : items.mapM step = some results) :
    ∀ result ∈ results, ∃ item ∈ items, step item = some result := by
  induction items generalizing results with
  | nil =>
      rw [List.mapM_nil] at succeeded
      cases succeeded
      exact fun result member => absurd member List.not_mem_nil
  | cons first rest induction =>
      rw [List.mapM_cons] at succeeded
      rcases Option.bind_eq_some_iff.mp succeeded with
        ⟨head, headSome, remaining⟩
      rcases Option.bind_eq_some_iff.mp remaining with ⟨tail, tailSome, equal⟩
      cases equal
      intro result member
      rcases List.mem_cons.mp member with isHead | inTail
      · rw [isHead]
        exact ⟨first, List.mem_cons_self, headSome⟩
      · rcases induction tailSome result inTail with
          ⟨item, itemMember, itemSome⟩
        exact ⟨item, List.mem_cons_of_mem first itemMember, itemSome⟩

end Outcome

end JsonApi

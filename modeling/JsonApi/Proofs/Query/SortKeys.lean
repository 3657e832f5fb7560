import JsonApi.Query.Parameters
import Mathlib.Data.List.FinRange
import Mathlib.Data.List.Induction
import Mathlib.Data.List.Nodup

/-!
# The last request for each field

Of several requests to sort by one field the last one counts, at its own place.
`SortKey.lastRequests` says so by places: a request stays unless a request
behind it is for the same field.  One more request drops those that it replaces
(`lastRequests_concat`), so that appending the requests one after the other
leaves the requests that stay (`foldl_append`).  They are what sort keys are
resolved to if all requested fields are allowed; otherwise each request that is
not allowed is reported (`resolve_lastRequests`).
-/

namespace JsonApi.SortKey

/-! ## Requests that stay -/

/-- No request behind the place is for the same field. -/
def IsLast (requests : List SortKey) (place : Fin requests.length) : Prop :=
  ∀ later, place < later → requests[later].field ≠ requests[place].field

instance (requests : List SortKey) : DecidablePred (IsLast requests) :=
  fun _ => inferInstanceAs (Decidable (∀ _, _ → _))

/-- The requests that no later request for the same field replaces, in their
order. -/
def lastRequests (requests : List SortKey) : List SortKey :=
  ((List.finRange requests.length).filter fun place =>
      IsLast requests place).map fun place => requests[place]

@[simp]
theorem lastRequests_nil : lastRequests [] = [] := rfl

theorem isLast_zero
    {key : SortKey}
    {requests : List SortKey} :
    IsLast (key :: requests) (0 : Fin (requests.length + 1)) ↔
      key.field ∉ requests.map field := by
  rw [IsLast, List.mem_map]
  constructor
  · rintro only ⟨other, member, same⟩
    rcases List.mem_iff_get.mp member with ⟨place, isOther⟩
    exact only place.succ (Fin.succ_pos place) (by simp [← same, ← isOther])
  · rintro absent later behind same
    rcases Fin.exists_succ_eq.mpr (Fin.ne_zero_of_lt behind) with ⟨place, rfl⟩
    exact absent ⟨requests[place], List.getElem_mem _, same⟩

theorem isLast_succ
    {key : SortKey}
    {requests : List SortKey}
    {place : Fin requests.length} :
    IsLast (key :: requests) place.succ ↔ IsLast requests place := by
  unfold IsLast
  simp [Fin.forall_fin_succ]

/-- The first request stays if none of the others is for its field. -/
theorem lastRequests_cons
    (key : SortKey)
    (requests : List SortKey) :
    lastRequests (key :: requests) =
      if key.field ∈ requests.map field then lastRequests requests
      else key :: lastRequests requests := by
  have places : List.finRange (key :: requests).length =
      0 :: (List.finRange requests.length).map Fin.succ := List.finRange_succ
  have behind :
      (((List.finRange requests.length).map Fin.succ).filter
          fun place => IsLast (key :: requests) place).map (fun place =>
            (key :: requests)[place]) =
        lastRequests requests := by
    simp only [List.filter_map, List.map_map, Function.comp_def, isLast_succ]
    rfl
  rw [lastRequests, places, List.filter_cons]
  by_cases repeated : key.field ∈ requests.map field
  · rw [if_neg (by simpa [isLast_zero] using repeated), behind, if_pos repeated]
  · rw [if_pos (by simpa [isLast_zero] using repeated), List.map_cons, behind,
      if_neg repeated]
    rfl

/-- One more request stays itself and replaces those before it for the same
field. -/
theorem lastRequests_concat
    (requests : List SortKey)
    (key : SortKey) :
    lastRequests (requests ++ [key]) = append (lastRequests requests) key := by
  induction requests with
  | nil => simp [lastRequests_cons, append]
  | cons first requests induction =>
      have later : first.field ∈ (requests ++ [key]).map field ↔
          first.field ∈ requests.map field ∨ first.field = key.field := by
        simp
      rw [List.cons_append, lastRequests_cons, lastRequests_cons, induction]
      by_cases repeated : first.field ∈ requests.map field
      · rw [if_pos (later.mpr (Or.inl repeated)), if_pos repeated]
      · rw [if_neg repeated, append, append]
        by_cases replaced : first.field = key.field
        · rw [if_pos (later.mpr (Or.inr replaced)),
            List.filter_cons_of_neg (by simpa)]
        · rw [if_neg (by simp [repeated, replaced]),
            List.filter_cons_of_pos (by simpa), List.cons_append]

/-- Appending requests one after the other leaves those that stay. -/
theorem foldl_append (requests : List SortKey) :
    requests.foldl append [] = lastRequests requests := by
  induction requests using List.reverseRecOn with
  | nil => rfl
  | append_singleton requests key induction =>
      rw [List.foldl_concat, induction, lastRequests_concat]

/-- The third request replaces the first one. -/
example :
    lastRequests [⟨"year", false⟩, ⟨"title", false⟩, ⟨"year", true⟩] =
      [⟨"title", false⟩, ⟨"year", true⟩] := by
  decide

theorem lastRequests_sublist (requests : List SortKey) :
    (lastRequests requests).Sublist requests := by
  have places :=
    List.filter_sublist (p := fun place => decide (IsLast requests place))
    (l := List.finRange requests.length)
  simpa [lastRequests] using places.map fun place => requests[place]

theorem nodup_lastRequests (requests : List SortKey) :
    ((lastRequests requests).map field).Nodup := by
  induction requests with
  | nil => exact List.nodup_nil
  | cons key requests induction =>
      rw [lastRequests_cons]
      split
      · exact induction
      · rename_i only
        rw [List.map_cons, List.nodup_cons]
        exact ⟨fun later =>
          only (((lastRequests_sublist requests).map field).mem later),
          induction⟩

/-- Requests for different fields all stay. -/
theorem lastRequests_of_nodup
    {requests : List SortKey}
    (distinct : (requests.map field).Nodup) :
    lastRequests requests = requests := by
  induction requests with
  | nil => rfl
  | cons key requests induction =>
      rcases List.nodup_cons.mp distinct with ⟨only, rest⟩
      rw [lastRequests_cons, if_neg only, induction rest]

/-! ## Resolving -/

variable {settings : SortSettings} {schema : Schema} {resourceType : String}
  {requested keys : List SortKey}

theorem resolve_eq_ok_iff :
    resolve settings schema resourceType requested = .ok keys ↔
      (∀ key ∈ requested,
          settings.allows schema resourceType key.field = true) ∧
        keys = lastRequests requested := by
  rw [resolve, ValidationErrors.unlessAny_eq_ok_iff, foldl_append,
    List.map_eq_nil_iff, List.filter_eq_nil_iff, eq_comm (a := keys)]
  simp

theorem resolve_eq_error_iff {report : ValidationErrors} :
    resolve settings schema resourceType requested = .error report ↔
      (∃ key ∈ requested,
          settings.allows schema resourceType key.field = false) ∧
        report.errors =
          (requested.filter fun key =>
              !settings.allows schema resourceType key.field).map fun key =>
            .unsupportedSortField resourceType key.field := by
  rw [resolve, ValidationErrors.unlessAny_eq_error_iff]
  apply and_congr_left'
  simp

/-- Resolved sort keys are for different fields, by each of which may be
sorted. -/
theorem allowed_of_resolve
    (resolved : resolve settings schema resourceType requested = .ok keys) :
    (keys.map field).Nodup ∧
      ∀ key ∈ keys, settings.allows schema resourceType key.field = true := by
  rcases resolve_eq_ok_iff.mp resolved with ⟨allowed, rfl⟩
  exact ⟨nodup_lastRequests requested,
    fun key member => allowed key ((lastRequests_sublist requested).mem member)⟩

/-- Resolved sort keys are resolved to themselves. -/
theorem resolve_keys
    (resolved : resolve settings schema resourceType requested = .ok keys) :
    resolve settings schema resourceType keys = .ok keys := by
  rcases allowed_of_resolve resolved with ⟨distinct, allowed⟩
  exact resolve_eq_ok_iff.mpr ⟨allowed, (lastRequests_of_nodup distinct).symm⟩

/-- What requested sort keys are resolved to.  If all their fields are allowed,
these are the requests that no later one for the same field replaces, in their
order and each with its own direction; otherwise there is one error for each
request that is not allowed, in the order of the requests and with repetitions.
Resolving what was resolved changes nothing. -/
theorem resolve_lastRequests
    (settings : SortSettings)
    (schema : Schema)
    (resourceType : String)
    (requested : List SortKey) :
    (∀ keys, resolve settings schema resourceType requested = .ok keys ↔
        (∀ key ∈ requested,
            settings.allows schema resourceType key.field = true) ∧
          keys = lastRequests requested) ∧
      (∀ report,
          resolve settings schema resourceType requested = .error report ↔
        (∃ key ∈ requested,
            settings.allows schema resourceType key.field = false) ∧
          report.errors =
            (requested.filter fun key =>
                !settings.allows schema resourceType key.field).map fun key =>
              .unsupportedSortField resourceType key.field) ∧
      (resolve settings schema resourceType requested).bind
          (resolve settings schema resourceType) =
        resolve settings schema resourceType requested := by
  refine ⟨fun _ => resolve_eq_ok_iff, fun _ => resolve_eq_error_iff, ?_⟩
  cases outcome : resolve settings schema resourceType requested with
  | error report => rfl
  | ok keys => exact resolve_keys outcome

end JsonApi.SortKey

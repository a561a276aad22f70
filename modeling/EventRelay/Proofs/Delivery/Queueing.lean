import EventRelay.Delivery.Queue

/-!
# What a queue holds

A queue that was filled by any calls, said without the calls one after the other: the submissions
of a phase are the calls for it that gave a list of objects with at least one item, in order.
-/

namespace EventRelay

namespace Event

private theorem firstNonObject?_eq_none_iff (events : List Json) (index : Nat) :
    firstNonObject? index events = none ↔ ∀ event ∈ events, event.isObject := by
  induction events generalizing index with
  | nil => simp [firstNonObject?]
  | cons event rest ih =>
    by_cases h : event.isObject
    · simp [firstNonObject?, h, ih]
    · simp [firstNonObject?, h]

/-- A list of events passes the check exactly if all of them are objects. -/
theorem checkList_eq_ok_iff (events : List Json) :
    checkList events = .ok () ↔ ∀ event ∈ events, event.isObject := by
  rw [← firstNonObject?_eq_none_iff events 0, checkList]
  cases firstNonObject? 0 events <;> simp

end Event

namespace Queue

/-- The submissions of a phase. -/
def submissions (queue : Queue) : Phase → List Submission
  | .regular => queue.pending
  | .late => queue.late

/-- A call that puts events down. -/
structure Call where
  phase : Phase
  destination : Destination
  types : EventTypes
  events : List Json

namespace Call

/-- Whether the call is accepted: all its events are objects. -/
def isAccepted (call : Call) : Bool := call.events.all (·.isObject)

/-- Whether the call leaves a submission: it is accepted and has events. -/
def isStored (call : Call) : Bool := call.isAccepted && !call.events.isEmpty

/-- The submission of a call. -/
def submission (call : Call) : Submission := ⟨call.destination, call.types, call.events⟩

/-- The submissions that calls leave in a phase. -/
def stored (phase : Phase) (calls : List Call) : List Submission :=
  (calls.filter fun call ↦ call.phase = phase ∧ call.isStored).map submission

/-- The events of accepted calls. -/
def accepted (calls : List Call) : List Json :=
  (calls.filter isAccepted).flatMap (·.events)

end Call

/-- The queue after a call; a call that is refused changes nothing. -/
def apply (queue : Queue) (call : Call) : Queue :=
  match queue.push call.phase call.destination call.types call.events with
  | .ok queue => queue
  | .error _ => queue

/-- The queue of a request after calls. -/
def ofCalls (context : Option RequestContext) (calls : List Call) : Queue :=
  calls.foldl apply { context }

/-- A call that is not stored changes nothing. -/
theorem apply_of_not_stored (queue : Queue) {call : Call} (h : ¬call.isStored) :
    queue.apply call = queue := by
  unfold apply push
  cases hc : Event.checkList call.events with
  | error reason => rfl
  | ok =>
    have ha : call.isAccepted := List.all_eq_true.mpr ((Event.checkList_eq_ok_iff _).mp hc)
    have he : call.events.isEmpty := by simpa [Call.isStored, ha] using h
    simp [he, bind, Except.bind, pure, Except.pure]

/-- A call that is stored adds its submission at the end of its phase. -/
theorem apply_of_stored (queue : Queue) {call : Call} (h : call.isStored) :
    queue.apply call =
      match call.phase with
      | .regular => { queue with pending := queue.pending ++ [call.submission] }
      | .late => { queue with late := queue.late ++ [call.submission] } := by
  obtain ⟨ha, he⟩ : call.isAccepted ∧ call.events.isEmpty = false := by
    simpa [Call.isStored] using h
  have hc : Event.checkList call.events = .ok () :=
    (Event.checkList_eq_ok_iff _).mpr (List.all_eq_true.mp ha)
  unfold apply push
  cases hp : call.phase <;>
    simp [hc, he, bind, Except.bind, pure, Except.pure, Call.submission]

/-- A call is only about the submissions of its phase. -/
theorem submissions_apply (queue : Queue) (call : Call) (phase : Phase) :
    (queue.apply call).submissions phase =
      queue.submissions phase ++ Call.stored phase [call] := by
  by_cases h : call.isStored
  · rw [apply_of_stored queue h]
    cases hp : call.phase <;> cases phase <;> simp [submissions, Call.stored, hp, h]
  · simp [apply_of_not_stored queue h, Call.stored, h]

/-- The submissions of a phase are those of the stored calls for it. -/
theorem submissions_ofCalls (context : Option RequestContext) (calls : List Call)
    (phase : Phase) : (ofCalls context calls).submissions phase = Call.stored phase calls := by
  have run (queue : Queue) : (calls.foldl apply queue).submissions phase =
      queue.submissions phase ++ Call.stored phase calls := by
    induction calls generalizing queue with
    | nil => simp [Call.stored]
    | cons call rest ih =>
      rw [List.foldl_cons, ih, submissions_apply, List.append_assoc]
      congr 1
      simp only [Call.stored, ← List.map_append, ← List.filter_append, List.singleton_append]
  rw [ofCalls, run]
  cases phase <;> rfl

end Queue

/-- Two lists in two parts each, joined part by part. -/
theorem perm_append_exchange {α : Type} (a b c d : List α) :
    ((a ++ b) ++ (c ++ d)).Perm ((a ++ c) ++ (b ++ d)) := by
  simp only [List.append_assoc]
  refine List.Perm.append_left a ?_
  simp only [← List.append_assoc]
  exact List.perm_append_comm.append_right d

namespace Queue.Call

private theorem stored_cons (phase : Phase) (call : Call) (rest : List Call) :
    stored phase (call :: rest) = stored phase [call] ++ stored phase rest := by
  simp only [stored, ← List.map_append, ← List.filter_append, List.singleton_append]

private theorem accepted_singleton (call : Call) :
    accepted [call] = (stored .regular [call] ++ stored .late [call]).flatMap (·.events) := by
  by_cases h : call.isStored
  · obtain ⟨ha, -⟩ : call.isAccepted ∧ _ := by simpa [isStored] using h
    cases hp : call.phase <;> simp [accepted, stored, ha, h, hp, submission]
  · by_cases ha : call.isAccepted
    · have he : call.events = [] := by simpa [isStored, ha] using h
      simp [accepted, stored, ha, h, he]
    · simp [accepted, stored, ha, h]

/-- The events of accepted calls are those of their submissions, the regular and the late ones. -/
theorem perm_accepted (calls : List Call) :
    (accepted calls).Perm
      ((stored .regular calls ++ stored .late calls).flatMap (·.events)) := by
  induction calls with
  | nil => exact List.Perm.refl _
  | cons call rest ih =>
    have hc : accepted (call :: rest) = accepted [call] ++ accepted rest := by
      simp only [accepted, ← List.flatMap_append, ← List.filter_append, List.singleton_append]
    rw [hc, accepted_singleton, stored_cons .regular call rest, stored_cons .late call rest]
    refine (ih.append_left _).trans ?_
    simp only [List.flatMap_append]
    exact perm_append_exchange _ _ _ _

end Queue.Call
end EventRelay

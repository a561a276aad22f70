import EventRelay.Delivery.Queue
import Mathlib.Data.List.Basic
import Mathlib.Data.List.Induction

/-!
# Batches by key

The groups of a list of submissions, said without the loop that builds them: one batch for each
key that occurs, in order of first appearance, with the events of all submissions of that key.
`Group.ofSubmissions_eq` is the equality of the two, and `Group.perm_ofSubmissions` says that no
event is lost or doubled on the way.
-/

namespace EventRelay

/-- What submissions of one batch have in common: the service and the category. -/
abbrev BatchKey := String × EventTypes

namespace Submission

/-- The key of a submission; none if it goes to a stream that is disabled. -/
def key? (config : Config) (submission : Submission) : Option BatchKey :=
  match submission.destination with
  | .service name => some (name, submission.types)
  | .stream stream =>
    match config.route stream with
    | .service name => some (name, submission.types)
    | .disabled => none

/-- The keys of submissions, each once, in order of first appearance. -/
def keys (config : Config) (submissions : List Submission) : List BatchKey :=
  (submissions.filterMap (key? config)).eraseDups

/-- The events of all submissions with a key, in order. -/
def eventsOf (config : Config) (key : BatchKey) (submissions : List Submission) : List Json :=
  (submissions.filter fun s ↦ s.key? config = some key).flatMap (·.events)

/-- One batch for each key. -/
def batches (config : Config) (submissions : List Submission) : List Group :=
  (keys config submissions).map fun key ↦ ⟨key.1, key.2, eventsOf config key submissions⟩

/-- The events of submissions without a key. -/
def keyless (config : Config) (submissions : List Submission) : List Json :=
  (submissions.filter fun s ↦ s.key? config = none).flatMap (·.events)

end Submission

open Submission

/-- A further member is kept at the end, unless it is there. -/
theorem eraseDups_concat {α : Type} [BEq α] [LawfulBEq α] (l : List α) (a : α) :
    (l ++ [a]).eraseDups = if a ∈ l then l.eraseDups else l.eraseDups ++ [a] := by
  rw [List.eraseDups_append]
  by_cases h : a ∈ l <;> simp [List.removeAll, h, List.eraseDups_cons]

/-- No member is kept twice. -/
theorem nodup_eraseDups {α : Type} [BEq α] [LawfulBEq α] (l : List α) :
    l.eraseDups.Nodup := by
  induction l using List.reverseRecOn with
  | nil => simp
  | append_singleton l a ih =>
    rw [eraseDups_concat]
    split
    · exact ih
    · next h =>
      rw [List.nodup_append]
      refine ⟨ih, by simp, ?_⟩
      intro x hx y hy he
      have hy : y = a := by simpa using hy
      exact h (List.mem_eraseDups.mp (hy ▸ he ▸ hx))

private theorem eraseDups_filter {α : Type} [BEq α] [LawfulBEq α] (p : α → Bool) (l : List α) :
    (l.filter p).eraseDups = l.eraseDups.filter p := by
  induction l using List.reverseRecOn with
  | nil => simp
  | append_singleton l a ih =>
    rw [List.filter_append, eraseDups_concat]
    by_cases hp : p a
    · have hs : [a].filter p = [a] := by simp [hp]
      rw [hs, eraseDups_concat, ih]
      by_cases h : a ∈ l <;> simp [h, hp, List.filter_append]
    · have hs : [a].filter p = [] := by simp [hp]
      rw [hs, List.append_nil, ih]
      split <;> simp [hp, List.filter_append]

/-- What is distinct stays distinct under an injective map. -/
theorem eraseDups_map {α β : Type} [BEq α] [LawfulBEq α] [BEq β] [LawfulBEq β] {f : α → β}
    (hf : f.Injective) (l : List α) : (l.map f).eraseDups = l.eraseDups.map f := by
  induction l using List.reverseRecOn with
  | nil => simp
  | append_singleton l a ih =>
    rw [List.map_append, List.map_singleton, eraseDups_concat, eraseDups_concat, ih]
    by_cases h : a ∈ l
    · rw [if_pos h, if_pos (List.mem_map_of_mem h)]
    · rw [if_neg h, if_neg (mt (List.mem_map_of_injective hf).mp h), List.map_append,
        List.map_singleton]

namespace Submission

/-- No key comes twice. -/
theorem nodup_keys (config : Config) (submissions : List Submission) :
    (keys config submissions).Nodup := nodup_eraseDups _

/-- The keys are those of the submissions. -/
theorem mem_keys {config : Config} {submissions : List Submission} {key : BatchKey} :
    key ∈ keys config submissions ↔ ∃ s ∈ submissions, s.key? config = some key := by
  rw [keys, List.mem_eraseDups, List.mem_filterMap]

/-- A further submission without a key adds no key. -/
private theorem keys_concat_none {config : Config} {s : Submission} (submissions : List Submission)
    (h : s.key? config = none) :
    keys config (submissions ++ [s]) = keys config submissions := by
  simp [keys, List.filterMap_append, h]

/-- A further submission adds its key at the end, unless the key is there. -/
private theorem keys_concat_some {config : Config} {s : Submission} {key : BatchKey}
    (submissions : List Submission) (h : s.key? config = some key) :
    keys config (submissions ++ [s]) =
      if key ∈ keys config submissions then keys config submissions
      else keys config submissions ++ [key] := by
  have hs : (submissions ++ [s]).filterMap (key? config) =
      submissions.filterMap (key? config) ++ [key] := by
    simp [List.filterMap_append, h]
  rw [keys, hs, eraseDups_concat, keys]
  simp only [List.mem_eraseDups]

/-- A further submission adds its events to those of its key and to no others. -/
private theorem eventsOf_concat (config : Config) (key : BatchKey) (submissions : List Submission)
    (s : Submission) :
    eventsOf config key (submissions ++ [s]) =
      eventsOf config key submissions ++ if s.key? config = some key then s.events else [] := by
  by_cases h : s.key? config = some key <;> simp [eventsOf, List.filter_append, h]

private theorem eventsOf_of_notMem {config : Config} {key : BatchKey}
    {submissions : List Submission}
    (h : key ∉ keys config submissions) : eventsOf config key submissions = [] := by
  have hf : submissions.filter (fun s ↦ s.key? config = some key) = [] := by
    rw [List.filter_eq_nil_iff]
    intro s hs hk
    exact h (mem_keys.mpr ⟨s, hs, by simpa using hk⟩)
  rw [eventsOf, hf, List.flatMap_nil]

/-- Of the submissions with certain keys there are the batches with these keys. -/
theorem batches_filter (config : Config) (p : BatchKey → Bool) (submissions : List Submission) :
    batches config (submissions.filter fun s ↦ (s.key? config).any p) =
      (batches config submissions).filter fun batch ↦ p (batch.service, batch.types) := by
  have hkeys : keys config (submissions.filter fun s ↦ (s.key? config).any p) =
      (keys config submissions).filter p := by
    rw [keys, keys, ← eraseDups_filter]
    congr 1
    induction submissions with
    | nil => rfl
    | cons s rest ih =>
      rw [List.filter_cons]
      cases hk : s.key? config with
      | none => simp [hk, ih]
      | some key => by_cases hp : p key <;> simp [hk, hp, ih]
  rw [batches, batches, hkeys, List.filter_map]
  refine List.map_congr_left fun key hm ↦ ?_
  have hp : p key := (List.mem_filter.mp hm).2
  rw [eventsOf, eventsOf, List.filter_filter]
  congr 3
  funext s
  by_cases hk : s.key? config = some key <;> simp [hk, hp]

/-- A further submission without a key adds its events to those without one. -/
private theorem keyless_concat (config : Config) (submissions : List Submission) (s : Submission) :
    keyless config (submissions ++ [s]) =
      keyless config submissions ++ if s.key? config = none then s.events else [] := by
  by_cases h : s.key? config = none <;> simp [keyless, List.filter_append, h]

end Submission

namespace Group

/-- Events for a group that is there are appended to it. -/
private theorem add_of_mem (key : BatchKey) (events : List Json) (f : BatchKey → List Json)
    {keys : List BatchKey} (hd : keys.Nodup) (h : key ∈ keys) :
    add key.1 key.2 events (keys.map fun k ↦ ⟨k.1, k.2, f k⟩) =
      keys.map fun k ↦ ⟨k.1, k.2, f k ++ if key = k then events else []⟩ := by
  induction keys with
  | nil => simp at h
  | cons k rest ih =>
    obtain ⟨hk, hr⟩ := List.nodup_cons.mp hd
    by_cases he : key = k
    · subst he
      have ht : rest.map (fun k ↦ (⟨k.1, k.2, f k⟩ : Group)) =
          rest.map fun k ↦ ⟨k.1, k.2, f k ++ if key = k then events else []⟩ := by
        apply List.map_congr_left
        intro k hm
        have hn : key ≠ k := fun he ↦ hk (he ▸ hm)
        simp [hn]
      simp only [List.map_cons, add, and_self, if_true, ht]
    · have hn : ¬(k.1 = key.1 ∧ k.2 = key.2) := fun hc ↦ he (Prod.ext hc.1.symm hc.2.symm)
      have hm : key ∈ rest := (List.mem_cons.mp h).resolve_left he
      simp only [List.map_cons, add, hn, if_false, ih hr hm, he, List.append_nil]

/-- Events for a group that is not there become a new one at the end. -/
private theorem add_of_notMem (key : BatchKey) (events : List Json) (f : BatchKey → List Json)
    {keys : List BatchKey} (h : key ∉ keys) :
    add key.1 key.2 events (keys.map fun k ↦ ⟨k.1, k.2, f k⟩) =
      (keys.map fun k ↦ ⟨k.1, k.2, f k⟩) ++ [⟨key.1, key.2, events⟩] := by
  induction keys with
  | nil => rfl
  | cons k rest ih =>
    obtain ⟨he, hr⟩ := not_or.mp (List.mem_cons.not.mp h)
    have hn : ¬(k.1 = key.1 ∧ k.2 = key.2) := fun hc ↦ he (Prod.ext hc.1.symm hc.2.symm)
    simp only [List.map_cons, add, hn, if_false, ih hr, List.cons_append]

private theorem perm_add (service : String) (types : EventTypes) (events : List Json)
    (groups : List Group) :
    ((add service types events groups).flatMap (·.events)).Perm
      (groups.flatMap (·.events) ++ events) := by
  induction groups with
  | nil => simp [add]
  | cons group rest ih =>
    simp only [add]
    split
    · simp only [List.flatMap_cons, List.append_assoc]
      exact List.perm_append_comm.append_left group.events
    · simp only [List.flatMap_cons, List.append_assoc]
      exact ih.append_left group.events

/-- A route is where the key of a submission points. -/
theorem key?_eq (config : Config) (submission : Submission) :
    submission.key? config =
      match routeOf config submission with
      | .service name => some (name, submission.types)
      | .disabled => none := by
  unfold Submission.key? routeOf
  cases submission.destination with
  | stream name => rfl
  | service name => rfl

/-- The groups after a further submission. -/
theorem ofSubmissions_concat (config : Config) (submissions : List Submission) (s : Submission) :
    ofSubmissions config (submissions ++ [s]) =
      match s.key? config with
      | some key => add key.1 key.2 s.events (ofSubmissions config submissions)
      | none => ofSubmissions config submissions := by
  rw [key?_eq]
  simp only [ofSubmissions, List.foldl_append, List.foldl_cons, List.foldl_nil]
  cases routeOf config s <;> rfl

/-- Grouping makes one batch for each key, in order of first appearance, and puts into it the
events of all submissions with that key, in order. -/
theorem ofSubmissions_eq (config : Config) (submissions : List Submission) :
    ofSubmissions config submissions = batches config submissions := by
  induction submissions using List.reverseRecOn with
  | nil => rfl
  | append_singleton submissions s ih =>
    rw [ofSubmissions_concat, ih]
    cases h : s.key? config with
    | none => simp [batches, keys_concat_none submissions h, eventsOf_concat, h]
    | some key =>
      simp only [batches, keys_concat_some submissions h, eventsOf_concat, h, Option.some.injEq]
      split
      · next hm => exact add_of_mem key s.events _ (nodup_keys config submissions) hm
      · next hm =>
        rw [add_of_notMem key s.events _ hm, List.map_append]
        congr 1
        · apply List.map_congr_left
          intro k hk
          have hn : key ≠ k := fun he ↦ hm (he ▸ hk)
          simp [hn]
        · simp [eventsOf_of_notMem hm]

/-- Each event of the submissions is in one group, or has no key. -/
theorem perm_ofSubmissions (config : Config) (submissions : List Submission) :
    (submissions.flatMap (·.events)).Perm
      ((ofSubmissions config submissions).flatMap (·.events) ++ keyless config submissions) := by
  induction submissions using List.reverseRecOn with
  | nil => exact List.Perm.refl _
  | append_singleton submissions s ih =>
    rw [ofSubmissions_concat, keyless_concat, List.flatMap_append, List.flatMap_singleton]
    cases h : s.key? config with
    | none =>
      simp only [if_true, ← List.append_assoc]
      exact ih.append_right s.events
    | some key =>
      simp only [reduceCtorEq, if_false, List.append_nil]
      refine (ih.append_right s.events).trans ?_
      refine List.Perm.trans ?_ ((perm_add key.1 key.2 s.events _).symm.append_right _)
      simp only [List.append_assoc]
      exact List.perm_append_comm.append_left _

/-- The number of events that go nowhere. -/
theorem dropped_eq (config : Config) (submissions : List Submission) :
    dropped config submissions = (keyless config submissions).length := by
  induction submissions using List.reverseRecOn with
  | nil => rfl
  | append_singleton submissions s ih =>
    rw [keyless_concat, List.length_append, ← ih, key?_eq]
    simp only [dropped, List.foldl_append, List.foldl_cons, List.foldl_nil]
    cases routeOf config s <;> simp

end Group
end EventRelay

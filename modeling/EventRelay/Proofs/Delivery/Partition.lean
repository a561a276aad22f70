import EventRelay.Delivery.Partition
import EventRelay.Proofs.Json.Printing

/-!
# Cutting events into batches

The cut is first brought from texts to lists: `slicesFrom` cuts by the size of the JSON array of a
batch, and `cutFrom_eq` says that the incremental text is that array's. On lists, a cut is sound:
its slices are the events in order, and a slice fits or holds a single event. It is also the
shortest such cut: the slices of another one, with as many events taken off the front as the open
batch holds, never need less.
-/

namespace EventRelay

namespace OpenBatch

/-- The text of a batch is that of the array of its events, without the closing bracket. -/
def IsConsistent (batch : OpenBatch) : Prop :=
  batch.text = "[" ++ ",".intercalate (batch.events.map Json.compact)

private theorem isConsistent_empty : empty.IsConsistent := rfl

/-- A batch stays consistent when it takes an event. -/
theorem IsConsistent.push {batch : OpenBatch} (h : batch.IsConsistent) (event : Json) :
    (batch.push event event.compact).IsConsistent := by
  unfold IsConsistent at h ⊢
  cases he : batch.events with
  | nil => simp [OpenBatch.push, separator, isEmpty, h, he]
  | cons first rest =>
    simp only [OpenBatch.push, separator, isEmpty, h, he, List.isEmpty_cons, Bool.false_eq_true,
      if_false, List.map_append, List.map_cons, List.map_nil]
    rw [String.intercalate_append_of_ne_nil (by simp) (by simp), String.intercalate_singleton]
    simp only [String.append_assoc]

/-- A consistent batch is sent as the array of its events. -/
theorem IsConsistent.close {batch : OpenBatch} (h : batch.IsConsistent) :
    batch.close = ⟨batch.events, (Json.array batch.events).compact⟩ := by
  rw [OpenBatch.close, h, Json.compact_array]

/-- The projected size of a consistent batch is that of the array with the further event. -/
private theorem IsConsistent.sizeWith {batch : OpenBatch} (h : batch.IsConsistent) (event : Json) :
    batch.sizeWith event.compact = (Json.array (batch.events ++ [event])).byteSize := by
  have hp := (h.push event).close
  have hc : "]".utf8ByteSize = 1 := by decide
  have hb := congrArg (fun b : SubBatch ↦ b.body.utf8ByteSize) hp
  simp only [OpenBatch.close, OpenBatch.push, String.utf8ByteSize_append, hc] at hb
  rw [Json.byteSize, ← hb, OpenBatch.sizeWith]
  omega

end OpenBatch

namespace SubBatch

/-- Cuts events into slices by the size of their arrays, the first of which is open. -/
def slicesFrom (limit : Nat) (first : List Json) : List Json → List (List Json)
  | [] => if first.isEmpty then [] else [first]
  | event :: rest =>
    if !first.isEmpty && limit < (Json.array (first ++ [event])).byteSize then
      first :: slicesFrom limit [event] rest
    else slicesFrom limit (first ++ [event]) rest

/-- The batch that sends a slice. -/
def ofSlice (slice : List Json) : SubBatch := ⟨slice, (Json.array slice).compact⟩

/-- The batches are the slices with the texts of their arrays. -/
theorem cutFrom_eq (limit : Nat) {batch : OpenBatch} (h : batch.IsConsistent)
    (events : List Json) :
    cutFrom limit batch events = (slicesFrom limit batch.events events).map ofSlice := by
  induction events generalizing batch with
  | nil =>
    rw [cutFrom, slicesFrom, h.close, OpenBatch.isEmpty]
    split <;> rfl
  | cons event rest ih =>
    simp only [cutFrom, slicesFrom, h.sizeWith, OpenBatch.isEmpty]
    split
    · rw [List.map_cons, ih (OpenBatch.isConsistent_empty.push event), h.close]
      rfl
    · rw [ih (h.push event)]
      rfl

/-- The cut of events. -/
theorem cut_eq (limit : Nat) (events : List Json) :
    cut limit events = (slicesFrom limit [] events).map ofSlice :=
  cutFrom_eq limit OpenBatch.isConsistent_empty events

/-- Whether events may be sent as one batch: their array fits, or there is just one. -/
def IsAllowed (limit : Nat) (slice : List Json) : Prop :=
  slice ≠ [] ∧ ((Json.array slice).byteSize ≤ limit ∨ slice.length = 1)

/-- Consecutive slices that make up the events and may each be sent as one batch. -/
structure IsCutting (limit : Nat) (events : List Json) (slices : List (List Json)) : Prop where
  flatten_eq : slices.flatten = events
  isAllowed : ∀ slice ∈ slices, IsAllowed limit slice

/-- A part of an allowed slice is allowed. -/
theorem IsAllowed.of_sublist {limit : Nat} {part slice : List Json} (h : IsAllowed limit slice)
    (hs : part.Sublist slice) (hn : part ≠ []) : IsAllowed limit part := by
  refine ⟨hn, ?_⟩
  rcases h.2 with hfit | hone
  · exact .inl (Nat.le_trans (Json.byteSize_array_le hs) hfit)
  · have hl := hs.length_le
    have hp := List.length_pos_iff.mpr hn
    exact .inr (by omega)

/-! ### A cut is sound -/

/-- A cut that goes on from an open slice is a cutting of the slice and the events behind it. -/
private theorem isCutting_slicesFrom (limit : Nat) {first : List Json}
    (h : first = [] ∨ IsAllowed limit first) (events : List Json) :
    IsCutting limit (first ++ events) (slicesFrom limit first events) := by
  induction events generalizing first with
  | nil =>
    rcases h with rfl | h
    · exact ⟨rfl, by simp [slicesFrom]⟩
    · have hs : slicesFrom limit first [] = [first] := by simp [slicesFrom, h.1]
      exact ⟨by simp [hs], by simpa [hs] using h⟩
  | cons event rest ih =>
    have hone : IsAllowed limit [event] := ⟨by simp, .inr rfl⟩
    rw [slicesFrom]
    split
    · next hc =>
      obtain ⟨hn, -⟩ : first ≠ [] ∧ _ := by simpa using hc
      have hr := ih (.inr hone)
      refine ⟨by simp [hr.flatten_eq], ?_⟩
      intro slice hs
      rcases List.mem_cons.mp hs with rfl | hs
      · exact h.resolve_left hn
      · exact hr.isAllowed slice hs
    · next hc =>
      have hallowed : IsAllowed limit (first ++ [event]) := by
        by_cases hn : first = []
        · simpa [hn] using hone
        · exact ⟨by simp, .inl (by simpa [hn] using hc)⟩
      simpa using ih (.inr hallowed)

/-- The slices of a cut are a cutting. -/
theorem isCutting_slices (limit : Nat) (events : List Json) :
    IsCutting limit events (slicesFrom limit [] events) :=
  isCutting_slicesFrom limit (.inl rfl) events

/-- There are no batches exactly if there are no events. -/
theorem cut_eq_nil_iff {limit : Nat} {events : List Json} :
    cut limit events = [] ↔ events = [] := by
  rw [cut_eq, List.map_eq_nil_iff]
  constructor
  · intro hs
    have hflat := (isCutting_slices limit events).flatten_eq
    rw [hs] at hflat
    exact hflat.symm
  · rintro rfl
    rfl

private theorem exists_slice_of_flatten {slices : List (List Json)} {before after : List Json}
    {event : Json} (h : slices.flatten = before ++ event :: after) :
    ∃ earlier slice later front back, slices = earlier ++ slice :: later ∧
      slice = front ++ event :: back ∧ earlier.flatten ++ front = before ∧
      back ++ later.flatten = after := by
  induction slices generalizing before with
  | nil => simp at h
  | cons slice rest ih =>
    rw [List.flatten_cons] at h
    rcases List.append_eq_append_iff.mp h with ⟨front, hb, hr⟩ | ⟨back, hs, hr⟩
    · obtain ⟨earlier, found, later, front', back, hl, hf, he, hk⟩ := ih hr
      exact ⟨slice :: earlier, found, later, front', back, by simp [hl], hf, by simp [he, hb], hk⟩
    · cases back with
      | nil =>
        obtain ⟨earlier, found, later, front', back, hl, hf, he, hk⟩ :=
          @ih [] (by simpa using hr.symm)
        obtain ⟨he, hfr⟩ := List.append_eq_nil_iff.mp he
        exact ⟨slice :: earlier, found, later, front', back, by simp [hl], hf,
          by simp [he, hfr, hs], hk⟩
      | cons first back =>
        obtain ⟨rfl, ha⟩ := List.cons.inj hr
        exact ⟨[], slice, rest, before, back, rfl, hs, rfl, ha.symm⟩

/-- An event that does not fit on its own is alone in its slice. -/
theorem IsCutting.alone {limit : Nat} {before after : List Json} {event : Json}
    {slices : List (List Json)} (h : IsCutting limit (before ++ event :: after) slices)
    (hlarge : limit < (Json.array [event]).byteSize) :
    ∃ earlier later, slices = earlier ++ [event] :: later ∧ earlier.flatten = before ∧
      later.flatten = after := by
  obtain ⟨earlier, slice, later, front, back, hs, hf, hb, ha⟩ :=
    exists_slice_of_flatten h.flatten_eq
  have hsub : [event].Sublist slice := by simp [hf]
  have hsize := Json.byteSize_array_le hsub
  have hone : slice.length = 1 :=
    (h.isAllowed slice (by simp [hs])).2.resolve_left (by omega)
  rw [hf, List.length_append, List.length_cons] at hone
  have hfront : front = [] := List.eq_nil_of_length_eq_zero (by omega)
  have hback : back = [] := List.eq_nil_of_length_eq_zero (by omega)
  subst hfront hback
  exact ⟨earlier, later, by rw [hs, hf]; rfl, by simpa using hb, by simpa using ha⟩

/-! ### No cutting is shorter -/

/-- Events taken off the front leave a cutting with no more slices. -/
private theorem IsCutting.drop {limit : Nat} {front back : List Json} {slices : List (List Json)}
    (h : IsCutting limit (front ++ back) slices) :
    ∃ others, IsCutting limit back others ∧ others.length ≤ slices.length := by
  induction slices generalizing front with
  | nil =>
    have hb : back = [] := (List.append_eq_nil_iff.mp h.flatten_eq.symm).2
    exact ⟨[], ⟨hb.symm, by simp⟩, Nat.le_refl _⟩
  | cons slice rest ih =>
    have hrest : ∀ s ∈ rest, IsAllowed limit s :=
      fun s hs ↦ h.isAllowed s (List.mem_cons_of_mem _ hs)
    have hf := h.flatten_eq
    rw [List.flatten_cons] at hf
    rcases List.append_eq_append_iff.mp hf with ⟨left, _, hr⟩ | ⟨part, hs, hb⟩
    · obtain ⟨others, ho, hl⟩ := @ih left ⟨hr, hrest⟩
      exact ⟨others, ho, Nat.le_trans hl (Nat.le_succ _)⟩
    · by_cases hn : part = []
      · exact ⟨rest, ⟨by simp [hb, hn], hrest⟩, Nat.le_succ _⟩
      · have hpart : IsAllowed limit part :=
          (h.isAllowed slice List.mem_cons_self).of_sublist (by simp [hs]) hn
        refine ⟨part :: rest, ⟨by simp [hb], ?_⟩, Nat.le_refl _⟩
        intro s hm
        rcases List.mem_cons.mp hm with rfl | hm
        · exact hpart
        · exact hrest s hm

/-- Going on from an open slice needs no more slices than any cutting of the slice and the events
behind it: where the cut closes the slice, no slice of a cutting reaches beyond it either. -/
theorem length_slicesFrom_le {limit : Nat} {first events : List Json}
    {slices : List (List Json)} (h : IsCutting limit (first ++ events) slices) :
    (slicesFrom limit first events).length ≤ slices.length := by
  induction events generalizing first slices with
  | nil =>
    by_cases hn : first = []
    · simp [slicesFrom, hn]
    · have hp : slices ≠ [] := fun he ↦ hn (by simpa [he] using h.flatten_eq.symm)
      have hl : 1 ≤ slices.length := List.length_pos_iff.mpr hp
      simpa [slicesFrom, hn] using hl
  | cons event rest ih =>
    rw [slicesFrom]
    split
    · next hc =>
      obtain ⟨hn, hlarge⟩ : first ≠ [] ∧ limit < (Json.array (first ++ [event])).byteSize := by
        simpa using hc
      cases slices with
      | nil => simpa using h.flatten_eq
      | cons slice others =>
        have hs := h.isAllowed slice List.mem_cons_self
        have ho : ∀ s ∈ others, IsAllowed limit s :=
          fun s hm ↦ h.isAllowed s (List.mem_cons_of_mem _ hm)
        have hf := h.flatten_eq
        rw [List.flatten_cons] at hf
        have hclosed : ∃ part, IsCutting limit (part ++ event :: rest) others := by
          rcases List.append_eq_append_iff.mp hf with ⟨part, _, hr⟩ | ⟨more, hm, hr⟩
          · exact ⟨part, hr, ho⟩
          · cases more with
            | nil => exact ⟨[], by simpa using hr.symm, ho⟩
            | cons next more =>
              -- The slice would hold the open one and the event, which do not fit together.
              exfalso
              obtain ⟨rfl, -⟩ := List.cons.inj hr
              have hsub : (first ++ [event]).Sublist slice := by simp [hm]
              have hsize := Json.byteSize_array_le hsub
              have hlen := hsub.length_le
              have hp := List.length_pos_iff.mpr hn
              rw [List.length_append, List.length_singleton] at hlen
              rcases hs.2 with hfit | hone <;> omega
        obtain ⟨part, hpart⟩ := hclosed
        obtain ⟨fewer, hc, hl⟩ := hpart.drop
        have := @ih [event] fewer (by simpa using hc)
        simp only [List.length_cons]
        omega
    · exact ih (by simpa using h)

/-! ### The batches -/

/-- The batches of events are their slices with the texts of the arrays: none is empty, joined they
are the events, and each fits or holds a single event. An event that does not fit on its own is
alone in its batch, wherever it stands. -/
theorem cut_is_sound (limit : Nat) (events : List Json) :
    (cut limit events).flatMap (·.events) = events ∧
    (∀ batch ∈ cut limit events,
      batch.events ≠ [] ∧ batch.body = (Json.array batch.events).compact ∧
        (batch.body.utf8ByteSize ≤ limit ∨ batch.events.length = 1)) ∧
    ∀ before event after, events = before ++ event :: after →
      limit < (Json.array [event]).byteSize →
      ∃ earlier later,
        cut limit events = earlier ++ ⟨[event], (Json.array [event]).compact⟩ :: later ∧
          earlier.flatMap (·.events) = before ∧ later.flatMap (·.events) = after := by
  have hc := isCutting_slices limit events
  have hflat (slices : List (List Json)) :
      (slices.map ofSlice).flatMap (·.events) = slices.flatten := by
    rw [List.flatMap_map, List.flatMap_def]
    exact congrArg List.flatten (List.map_id slices)
  rw [cut_eq]
  refine ⟨?_, ?_, ?_⟩
  · rw [hflat, hc.flatten_eq]
  · intro batch hb
    obtain ⟨slice, hs, rfl⟩ := List.mem_map.mp hb
    obtain ⟨hn, hfit⟩ := hc.isAllowed slice hs
    exact ⟨hn, rfl, hfit⟩
  · intro before event after he hlarge
    obtain ⟨earlier, later, hs, hb, ha⟩ := (he ▸ hc).alone hlarge
    refine ⟨earlier.map ofSlice, later.map ofSlice, ?_, ?_, ?_⟩
    · rw [← he] at hs
      rw [hs, List.map_append, List.map_cons]
      rfl
    · rw [hflat, hb]
    · rw [hflat, ha]

/-- Events of which the second does not fit into five bytes. -/
def mixedEvents : List Json := [.ofNat 1, .string "oversized", .ofNat 2, .ofNat 3]

/-- The large event is alone between the others. -/
theorem cut_is_sound_mixed :
    mixedEvents = [.ofNat 1] ++ .string "oversized" :: [.ofNat 2, .ofNat 3] ∧
    5 < (Json.array [.string "oversized"]).byteSize ∧
    ∃ earlier later,
      cut 5 mixedEvents =
        earlier ++ ⟨[.string "oversized"], (Json.array [.string "oversized"]).compact⟩ :: later ∧
      earlier.flatMap (·.events) = [.ofNat 1] ∧
      later.flatMap (·.events) = [.ofNat 2, .ofNat 3] := by
  have hlarge : 5 < (Json.array [.string "oversized"]).byteSize := by decide
  exact ⟨rfl, hlarge, (cut_is_sound 5 mixedEvents).2.2 _ _ _ rfl hlarge⟩

/-- The batches are a way to divide the events into consecutive slices that may each be sent as
one batch, and no other way has fewer slices. -/
theorem cut_is_shortest (limit : Nat) (events : List Json) :
    IsCutting limit events ((cut limit events).map (·.events)) ∧
    ∀ slices, IsCutting limit events slices → (cut limit events).length ≤ slices.length := by
  have hslices : (cut limit events).map (·.events) = slicesFrom limit [] events := by
    rw [cut_eq, List.map_map]
    exact List.map_id _
  constructor
  · rw [hslices]
    exact isCutting_slices limit events
  · intro slices h
    rw [cut_eq, List.length_map]
    exact length_slicesFrom_le h

/-- Sending each of the events alone takes no fewer batches. -/
theorem cut_is_shortest_mixed :
    IsCutting 5 mixedEvents (mixedEvents.map ([·])) ∧ (cut 5 mixedEvents).length ≤ 4 := by
  have hc : IsCutting 5 mixedEvents (mixedEvents.map ([·])) := by
    refine ⟨rfl, ?_⟩
    intro slice hs
    obtain ⟨event, _, rfl⟩ := List.mem_map.mp hs
    exact ⟨by simp, .inr rfl⟩
  exact ⟨hc, (cut_is_shortest 5 mixedEvents).2 _ hc⟩

end SubBatch
end EventRelay

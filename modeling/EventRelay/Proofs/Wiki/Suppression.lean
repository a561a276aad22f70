import EventRelay.Proofs.Wiki.Change

/-!
# What is hidden of a revision

A revision names its author and its summary, and either can be hidden from the public. What is
hidden does not show in any event of the revision: whatever it is, the events are the same. The
event of a change of visibility names the user who made that change, never the author.
-/

namespace EventRelay.Wiki

/-! ### The acting user -/

/-- Whoever else acted makes no difference once the acting user has been set. -/
private theorem actedBy_congr {fields others : Fields}
    (h : Fields.erase fields "performer" = Fields.erase others "performer")
    (performer : Option User) : actedBy fields performer = actedBy others performer := by
  cases performer with
  | none => exact h
  | some user => rw [actedBy, actedBy, Fields.insert, Fields.insert, h]

/-! ### The entries of a revision -/

/-- No other entry of a revision has the key of the author or of the summary. -/
private theorem get?_revisionEntries (site : Site) (revision : Revision) {key : String}
    (hk : key = "performer" ∨ key = "comment") :
    Fields.get? (Fields.ofEntries (revisionEntries site revision)) key =
      (Fields.get? (authorEntry revision).reverse key).or
        (if revision.visibility.comment then none
          else Fields.get? (commentEntry revision.comment).reverse key) := by
  rcases hk with rfl | rfl <;> cases hc : revision.visibility.comment <;>
    simp [revisionEntries, pageEntries, hc]

private theorem erase_authorEntry (revision : Revision) :
    Fields.erase (authorEntry revision) "performer" = [] := by
  rw [authorEntry]
  cases revision.visibility.user with
  | true => rfl
  | false => cases hp : revision.performer <;> simp [performerEntry, Fields.ofOption, Fields.erase]

private theorem erase_revisionEntries (site : Site) (revision : Revision) (author : Option User) :
    Fields.erase (revisionEntries site { revision with performer := author }) "performer" =
      Fields.erase (revisionEntries site revision) "performer" := by
  simp only [revisionEntries, Fields.erase_append, erase_authorEntry]

/-- A hidden author has no effect on the entries of a revision. -/
theorem revisionEntries_of_hidden_user (site : Site) {revision : Revision}
    (h : revision.visibility.user = true) (author : Option User) :
    revisionEntries site { revision with performer := author } = revisionEntries site revision := by
  have hauthor : authorEntry { revision with performer := author } = authorEntry revision := by
    rw [authorEntry, authorEntry, if_pos h, if_pos h]
  rw [revisionEntries, revisionEntries, hauthor]

/-- Nor has a hidden summary. -/
theorem revisionEntries_of_hidden_comment (site : Site) {revision : Revision}
    (h : revision.visibility.comment = true) (comment : Bytes) :
    revisionEntries site { revision with comment } = revisionEntries site revision := by
  simp only [revisionEntries, h, if_true]
  rfl

namespace Change

/-- Hidden data does not leak. Of a revision whose author is hidden, the event of its creation does
not depend on the author; of one whose summary is hidden, neither this event nor that of a change of
its visibility depends on the summary; and the event of a change of visibility never depends on
the author of the revision: the user it names is the acting one, if any. What is not hidden does
appear. -/
theorem hidden_data_does_not_leak (site : Site) (ctx : RequestContext) (stream id : String)
    (revision : Revision) :
    let created (revision : Revision) := (revisionCreated revision).event site ctx stream id
    let changed (revision : Revision) (performer : Option User) (prior : Visibility) :=
      (visibilityChanged { revision, performer, prior }).event site ctx stream id
    (revision.visibility.user = true →
      ∀ author, created { revision with performer := author } = created revision) ∧
    (revision.visibility.comment = true → ∀ comment,
      created { revision with comment } = created revision ∧
      ∀ performer prior,
        changed { revision with comment } performer prior = changed revision performer prior) ∧
    (∀ author performer prior,
      changed { revision with performer := author } performer prior =
        changed revision performer prior) ∧
    (created revision).get? "performer" =
      (if revision.visibility.user = true then none else revision.performer.map userEntity) ∧
    (created revision).get? "comment" =
      (if revision.visibility.comment = true ∨ revision.comment = [] then none
        else some (.string (Text.binarySafe revision.comment))) ∧
    ∀ performer prior,
      (changed revision performer prior).get? "performer" = performer.map userEntity := by
  intro created changed
  refine ⟨?_, ?_, ?_, ?_, ?_, ?_⟩
  · intro hu author
    exact event_congr ctx stream id site rfl rfl rfl (revisionEntries_of_hidden_user site hu author)
  · intro hc comment
    have hentries := revisionEntries_of_hidden_comment site hc comment
    refine ⟨event_congr ctx stream id site rfl rfl rfl hentries, fun performer prior ↦ ?_⟩
    refine event_congr ctx stream id site rfl rfl rfl ?_
    rw [entries, entries, hentries]
  · intro author performer prior
    refine event_congr ctx stream id site rfl rfl rfl (actedBy_congr ?_ performer)
    rw [← Fields.ofEntries_erase, ← Fields.ofEntries_erase, Fields.erase_append,
      Fields.erase_append, erase_revisionEntries]
  · rw [get?_event ctx stream id site _ (by decide) (by decide), entries,
      get?_revisionEntries site revision (.inl rfl), get?_authorEntry, get?_commentEntry]
    cases revision.visibility.user <;> simp
  · rw [get?_event ctx stream id site _ (by decide) (by decide), entries,
      get?_revisionEntries site revision (.inr rfl), get?_authorEntry, get?_commentEntry]
    cases revision.visibility.comment <;> simp
  · intro performer prior
    rw [get?_event ctx stream id site _ (by decide) (by decide),
      Fields.ofEntries_of_isSorted (isSorted_entries_visibilityChanged site _)]
    exact get?_actedBy _ performer "performer"

/-- A revision by one user whose author and summary are hidden. -/
def coveredRevision : Revision :=
  { revId := 12
    timestamp := ⟨⟨2024, 5, 1⟩, 8, 30, 0, 0⟩
    page := { pageId := 7, space := 0, title := "A page" }
    performer := some (.named 3 "Author")
    comment := [104, 105]
    visibility := { user := true, comment := true } }

/-- The events of a covered revision and of one by nobody with a summary that is no text are the
same, both when it is created and when another user covers it. That user is named, and so would be
the author if only the summary were hidden. -/
theorem hidden_data_does_not_leak_covered :
    let site : Site := ⟨"https://wiki", "/wiki/", "wiki"⟩
    let ctx : RequestContext := ⟨"r", none, "wiki", ⟨⟨2024, 5, 2⟩, 9, 0, 0, 0⟩⟩
    let created (revision : Revision) := (revisionCreated revision).event site ctx "s" "id"
    let changed (revision : Revision) (performer : Option User) (prior : Visibility) :=
      (visibilityChanged { revision, performer, prior }).event site ctx "s" "id"
    let other := { coveredRevision with performer := none, comment := [255] }
    let shown := { coveredRevision with visibility := { comment := true } }
    coveredRevision.visibility.user = true ∧ coveredRevision.visibility.comment = true ∧
    other ≠ coveredRevision ∧ created other = created coveredRevision ∧
    changed other (some (.named 1 "Keeper")) {} =
      changed coveredRevision (some (.named 1 "Keeper")) {} ∧
    (changed coveredRevision (some (.named 1 "Keeper")) {}).get? "performer" =
      some (userEntity (.named 1 "Keeper")) ∧
    (created shown).get? "performer" = some (userEntity (.named 3 "Author")) := by
  intro site ctx created changed other shown
  let bare := { coveredRevision with performer := none }
  have hu : coveredRevision.visibility.user = true := rfl
  have hc : coveredRevision.visibility.comment = true := rfl
  obtain ⟨hauthor, -, hchanged, -, -, hacting⟩ :=
    hidden_data_does_not_leak site ctx "s" "id" coveredRevision
  obtain ⟨-, hsummary, -, -, -, -⟩ := hidden_data_does_not_leak site ctx "s" "id" bare
  obtain ⟨-, -, -, hshown, -, -⟩ := hidden_data_does_not_leak site ctx "s" "id" shown
  obtain ⟨hcreated, hvisibility⟩ := hsummary hc [255]
  exact ⟨hu, hc, by decide, hcreated.trans (hauthor hu none),
    (hvisibility (some (.named 1 "Keeper")) {}).trans (hchanged none _ _), hacting _ _,
    hshown.trans rfl⟩

end Change
end EventRelay.Wiki

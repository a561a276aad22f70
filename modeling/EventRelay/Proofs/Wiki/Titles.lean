import EventRelay.Proofs.Text.Trimming
import EventRelay.Proofs.Wiki.Change

/-!
# Titles and their keys

A title may be written with blanks or with underscores, and with white space around it. Its key is
the form in which it appears in events and in URLs, and the key of a key is that key itself. So it
makes no difference to an event which form the records have; and only titles of one key make one
event.
-/

namespace EventRelay.Wiki

/-! ### The form of a key -/

/-- A title in the form of a key: no blank is in it, and no white space at its ends. -/
structure IsTitleKey (title : String) : Prop where
  noBlank : ' ' ∉ title.toList
  isTrimmed : Text.IsTrimmed title.toList

/-- The key of a title has the form of one. -/
theorem isTitleKey_titleKey (title : String) : IsTitleKey (titleKey title) := by
  rw [titleKey]
  refine ⟨?_, ?_⟩ <;> rw [String.toList_ofList]
  · intro hm
    obtain ⟨c, -, hc⟩ := List.mem_map.mp hm
    split at hc
    · cases hc
    · next hne => exact hne hc
  -- An underscore is no white space either, so the ends stay as trimming left them.
  · refine (Text.isTrimmed_trimChars title.toList).map fun c hc ↦ ?_
    split
    · decide
    · exact hc

/-- The key of a title in that form is the title. -/
theorem IsTitleKey.titleKey_eq {title : String} (h : IsTitleKey title) :
    titleKey title = title := by
  have hkeep : ∀ c ∈ title.toList, (if c = ' ' then '_' else c) = c := by
    intro c hc
    exact if_neg fun (hblank : c = ' ') ↦ h.noBlank (hblank ▸ hc)
  rw [titleKey, h.isTrimmed.trimChars_eq, List.map_congr_left hkeep, List.map_id',
    String.ofList_toList]

/-- A title is its own key exactly if it has the form of one. -/
theorem titleKey_eq_self_iff {title : String} : titleKey title = title ↔ IsTitleKey title :=
  ⟨fun h ↦ h ▸ isTitleKey_titleKey title, IsTitleKey.titleKey_eq⟩

/-- The key of a key is that key. -/
theorem titleKey_titleKey (title : String) : titleKey (titleKey title) = titleKey title :=
  (isTitleKey_titleKey title).titleKey_eq

/-- Titles of one key have one URL. -/
theorem Site.pageUrl_congr (site : Site) {title other : String}
    (h : titleKey title = titleKey other) : site.pageUrl title = site.pageUrl other := by
  rw [pageUrl, pageUrl, h]

namespace Change

/-! ### The titles of a change -/

/-- The page that a change is about, if it is one of a page or of a revision. -/
def page? : Change → Option Page
  | pageDeleted deletion => some deletion.page
  | pageUndeleted undeletion => some undeletion.page
  | pageMoved move => some move.page
  | propertiesChanged change => some change.page
  | revisionCreated revision => some revision.page
  | visibilityChanged change => some change.revision.page
  | blocksChanged _ => none

/-- The title that the page had before, if it was moved. -/
def oldTitle? : Change → Option String
  | pageMoved move => some move.oldTitle
  | _ => none

/-- The number of the page that was left in the place of a moved one, if any. -/
def leftPage? : Change → Option UInt64
  | pageMoved move => move.redirectPageId
  | _ => none

/-- The same change of a page with another title. -/
def retitled (title : String) : Change → Change
  | pageDeleted deletion => pageDeleted { deletion with page.title := title }
  | pageUndeleted undeletion => pageUndeleted { undeletion with page.title := title }
  | pageMoved move => pageMoved { move with page.title := title }
  | propertiesChanged change => propertiesChanged { change with page.title := title }
  | revisionCreated revision => revisionCreated { revision with page.title := title }
  | visibilityChanged change => visibilityChanged { change with revision.page.title := title }
  | blocksChanged change => blocksChanged change

/-- The same change of a page that had another title before. -/
def movedFrom (oldTitle : String) : Change → Change
  | pageMoved move => pageMoved { move with oldTitle }
  | change => change

section

variable {change : Change} {page : Page} {old : String}

private theorem title_of_page? (h : change.page? = some page) : change.title = page.title := by
  cases change with
  | blocksChanged => cases h
  | _ => exact congrArg Page.title (Option.some.inj h)

private theorem retitled_self (h : change.page? = some page) :
    change.retitled page.title = change := by
  cases change <;> cases h <;> rfl

private theorem movedFrom_self (h : change.oldTitle? = some old) :
    change.movedFrom old = change := by
  cases change <;> cases h
  rfl

private theorem page?_retitled (h : change.page? = some page) (title : String) :
    (change.retitled title).page? = some { page with title } := by
  cases change <;> cases h <;> rfl

private theorem oldTitle?_retitled (change : Change) (title : String) :
    (change.retitled title).oldTitle? = change.oldTitle? := by
  cases change <;> rfl

private theorem oldTitle?_movedFrom (h : change.oldTitle? = some old) (title : String) :
    (change.movedFrom title).oldTitle? = some title := by
  cases change <;> cases h
  rfl

/-! ### What events say of titles -/

/-- The title of the page that an event describes under a key. -/
def titleUnder? (event : Json) (key : String) : Option Json :=
  (event.get? key).bind (·.get? "page_title")

variable (site : Site) (ctx : RequestContext) (stream id : String)

/-- What is said of a page depends on the key of its title alone. -/
private theorem pageEntries_congr (page : Page) {title other : String}
    (h : titleKey title = titleKey other) :
    pageEntries site { page with title } = pageEntries site { page with title := other } := by
  simp only [pageEntries, Page.key, h]

private theorem revisionEntries_congr (revision : Revision) {title other : String}
    (h : titleKey title = titleKey other) :
    revisionEntries site { revision with page.title := title } =
      revisionEntries site { revision with page.title := other } := by
  rw [revisionEntries, revisionEntries, pageEntries_congr site revision.page h]
  rfl

private theorem entries_retitled_congr (change : Change) {title other : String}
    (h : titleKey title = titleKey other) :
    (change.retitled title).entries site = (change.retitled other).entries site := by
  cases change with
  | visibilityChanged change =>
    simp only [retitled, entries, revisionEntries_congr site change.revision h]
  | revisionCreated revision => exact revisionEntries_congr site revision h
  | blocksChanged => rfl
  | _ => simp only [retitled, entries, pageEntries_congr site _ h]

/-- The title of a page appears in an event by its key alone. -/
theorem event_retitled_congr (change : Change) {title other : String}
    (h : titleKey title = titleKey other) :
    (change.retitled title).event site ctx stream id =
      (change.retitled other).event site ctx stream id := by
  have hentries := change.entries_retitled_congr site h
  have hurl := site.pageUrl_congr h
  cases change with
  | blocksChanged => rfl
  | _ => exact event_congr ctx stream id site rfl hurl rfl hentries

/-- So does the title that a moved page had before. -/
theorem event_movedFrom_congr (change : Change) {title other : String}
    (h : titleKey title = titleKey other) :
    (change.movedFrom title).event site ctx stream id =
      (change.movedFrom other).event site ctx stream id := by
  cases change with
  | pageMoved move =>
    refine event_congr ctx stream id site rfl rfl rfl ?_
    simp only [movedFrom, entries, h]
  | _ => rfl

/-- Nothing that is said of a revision besides its page has the key of the title. -/
private theorem get?_revisionEntries_title (revision : Revision) :
    Fields.get? (revisionEntries site revision).reverse "page_title" =
      some (.string revision.page.key) := by
  cases hc : revision.visibility.comment <;>
    simp [revisionEntries, pageEntries, hc, get?_authorEntry, get?_commentEntry]

private theorem get?_entries_title (h : change.page? = some page) :
    Fields.get? (Fields.ofEntries (change.entries site)) "page_title" =
      some (.string page.key) := by
  cases change with
  | revisionCreated revision =>
    cases h
    rw [Fields.get?_ofEntries]
    exact get?_revisionEntries_title site revision
  | visibilityChanged change =>
    cases h
    -- These entries are in order already, since the acting user was set among the others.
    rw [Fields.ofEntries_of_isSorted (isSorted_entries_visibilityChanged site change), entries,
      get?_actedBy, if_neg (by decide), Fields.get?_ofEntries, List.reverse_append,
      Fields.get?_append, get?_revisionEntries_title]
    rfl
  | blocksChanged => cases h
  | _ =>
    cases h
    simp [entries, pageEntries, performerEntry, get?_commentEntry, apply_ite List.reverse,
      apply_ite (Fields.get? · "page_title")]

private theorem get?_event_title (h : change.page? = some page) :
    (change.event site ctx stream id).get? "page_title" = some (.string page.key) := by
  rw [get?_event ctx stream id site change (by decide) (by decide)]
  exact get?_entries_title site h

/-- The event of a move describes the page as it was before. -/
private theorem get?_event_prior (move : PageMove) :
    ((pageMoved move).event site ctx stream id).get? "prior_state" =
      some (.ofFields
        [("page_title", .string (titleKey move.oldTitle)),
          ("page_namespace", .ofInt move.oldSpace.toInt)]) := by
  rw [get?_event ctx stream id site _ (by decide) (by decide), Fields.get?_ofEntries]
  simp [entries]

/-- It describes the page that was left in its place in the same way, if there is one. -/
private theorem get?_event_redirect (move : PageMove) :
    ((pageMoved move).event site ctx stream id).get? "new_redirect_page" =
      move.redirectPageId.map fun n ↦ .ofFields
        [("page_id", ofWord64 n), ("page_title", .string (titleKey move.oldTitle)),
          ("page_namespace", .ofInt move.oldSpace.toInt)] := by
  rw [get?_event ctx stream id site _ (by decide) (by decide), Fields.get?_ofEntries]
  simp [entries, pageEntries, performerEntry, get?_commentEntry]

private theorem titleUnder?_prior (h : change.oldTitle? = some old) :
    titleUnder? (change.event site ctx stream id) "prior_state" =
      some (.string (titleKey old)) := by
  cases change <;> cases h
  rw [titleUnder?, get?_event_prior]
  simp [Json.ofFields, Json.get?]

private theorem titleUnder?_redirect (h : change.oldTitle? = some old) :
    titleUnder? (change.event site ctx stream id) "new_redirect_page" =
      change.leftPage?.map fun _ ↦ .string (titleKey old) := by
  cases change <;> cases h
  next move =>
    rw [titleUnder?, get?_event_redirect, leftPage?]
    cases move.redirectPageId with
    | none => rfl
    | some n => simp [Json.ofFields, Json.get?]

/-- Another title makes the same event exactly if it has the same key. -/
theorem event_retitled_eq_iff (h : change.page? = some page) (title : String) :
    (change.retitled title).event site ctx stream id = change.event site ctx stream id ↔
      titleKey title = page.key := by
  constructor
  · intro he
    have htitle := get?_event_title site ctx stream id (page?_retitled h title)
    rw [he, get?_event_title site ctx stream id h] at htitle
    exact (Json.string.inj (Option.some.inj htitle)).symm
  · intro hkey
    rw [event_retitled_congr site ctx stream id change hkey, retitled_self h]

/-- Another old title makes the same event exactly if it has the same key. -/
theorem event_movedFrom_eq_iff (h : change.oldTitle? = some old) (title : String) :
    (change.movedFrom title).event site ctx stream id = change.event site ctx stream id ↔
      titleKey title = titleKey old := by
  constructor
  · intro he
    have htitle := titleUnder?_prior site ctx stream id (oldTitle?_movedFrom h title)
    rw [he, titleUnder?_prior site ctx stream id h] at htitle
    exact (Json.string.inj (Option.some.inj htitle)).symm
  · intro hkey
    rw [event_movedFrom_congr site ctx stream id change hkey, movedFrom_self h]

end

/-- Either form of a title makes the same event. The event of a change of a page or of a revision is
the same if the key of the title stands in its place, and so is that of a move if the key of the
title before stands in its place, or if both do; and only a title of the same key makes the same
event. The event names the page by this key: there is no blank in it and no white space at its ends,
and it is the title itself if that is so there already. The URI is the URL of the page of that
name. In the event of a move the page before, and one that was left in its place, go by the key of
the title before. -/
theorem title_forms_agree (site : Site) (ctx : RequestContext) (stream id : String)
    {change : Change} {page : Page} (h : change.page? = some page) :
    let event (change : Change) := change.event site ctx stream id
    event (change.retitled page.key) = event change ∧
    (∀ title, event (change.retitled title) = event change ↔ titleKey title = page.key) ∧
    (∀ old, change.oldTitle? = some old →
      event (change.movedFrom (titleKey old)) = event change ∧
      event ((change.retitled page.key).movedFrom (titleKey old)) = event change ∧
      (∀ title, event (change.movedFrom title) = event change ↔ titleKey title = titleKey old) ∧
      IsTitleKey (titleKey old) ∧
      titleUnder? (event change) "prior_state" = some (.string (titleKey old)) ∧
      titleUnder? (event change) "new_redirect_page" =
        change.leftPage?.map fun _ ↦ .string (titleKey old)) ∧
    (event change).get? "page_title" = some (.string page.key) ∧
    IsTitleKey page.key ∧ (page.key = page.title ↔ IsTitleKey page.title) ∧
    Event.about? (event change) "uri" = some (.string (site.pageUrl page.key)) := by
  intro event
  have hkey : titleKey page.key = page.key := titleKey_titleKey page.title
  have hretitled : event (change.retitled page.key) = event change :=
    (event_retitled_eq_iff site ctx stream id h page.key).mpr hkey
  refine ⟨hretitled, event_retitled_eq_iff site ctx stream id h, ?_, ?_, ?_, ?_, ?_⟩
  · intro old hold
    have hboth : (change.retitled page.key).oldTitle? = some old := by
      rw [oldTitle?_retitled, hold]
    refine ⟨?_, ?_, event_movedFrom_eq_iff site ctx stream id hold, isTitleKey_titleKey old,
      titleUnder?_prior site ctx stream id hold, titleUnder?_redirect site ctx stream id hold⟩
    · exact (event_movedFrom_eq_iff site ctx stream id hold _).mpr (titleKey_titleKey old)
    · have hmoved := event_movedFrom_eq_iff site ctx stream id hboth (titleKey old)
      exact (hmoved.mpr (titleKey_titleKey old)).trans hretitled
  · exact get?_event_title site ctx stream id h
  · exact isTitleKey_titleKey page.title
  · exact titleKey_eq_self_iff
  · rw [about?_event, title_of_page? h, site.pageUrl_congr hkey]

/-- A move between titles that have blanks in them and other white space around them. -/
def blankMove : PageMove :=
  { oldTitle := "\tOld name "
    oldSpace := 0
    page := { pageId := 7, space := 0, title := "\u00A0New_name of it\n" }
    revId := 12
    redirectPageId := some 8 }

/-- With both titles replaced by their keys the move makes the same event, and with a hyphen in one
of them it makes another one. The page goes by its key, also in the URL. -/
theorem title_forms_agree_moved :
    let site : Site := ⟨"https://wiki", "/wiki/", "wiki"⟩
    let ctx : RequestContext := ⟨"r", none, "wiki", ⟨⟨2024, 5, 2⟩, 9, 0, 0, 0⟩⟩
    let event (change : Change) := change.event site ctx "s" "id"
    let move := pageMoved blankMove
    move.page? = some blankMove.page ∧ move.oldTitle? = some "\tOld name " ∧
    event ((move.retitled "New_name_of_it").movedFrom "Old_name") = event move ∧
    event (move.retitled "New-name of it") ≠ event move ∧
    (event move).get? "page_title" = some (.string "New_name_of_it") ∧
    titleUnder? (event move) "prior_state" = some (.string "Old_name") ∧
    titleUnder? (event move) "new_redirect_page" = some (.string "Old_name") ∧
    IsTitleKey "New_name_of_it" ∧ ¬ IsTitleKey blankMove.page.title ∧
    Event.about? (event move) "uri" = some (.string "https://wiki/wiki/New_name_of_it") := by
  intro site ctx event move
  have hpage : move.page? = some blankMove.page := rfl
  have hmoved : move.oldTitle? = some "\tOld name " := rfl
  have hkey : blankMove.page.key = "New_name_of_it" := by decide
  have hold : titleKey "\tOld name " = "Old_name" := by decide
  have hhyphen : titleKey "New-name of it" ≠ "New_name_of_it" := by decide
  have hurl : site.pageUrl "New_name_of_it" = "https://wiki/wiki/New_name_of_it" := by
    decide +kernel
  obtain ⟨-, htitles, hmoves, hnamed, hform, hsame, huri⟩ :=
    title_forms_agree site ctx "s" "id" hpage
  obtain ⟨-, hboth, -, -, hprior, hleft⟩ := hmoves _ hmoved
  rw [hkey] at htitles hboth hnamed hform hsame huri
  rw [hold] at hboth hprior hleft
  rw [hurl] at huri
  refine ⟨hpage, hmoved, hboth, ?_, hnamed, hprior, hleft, hform, ?_, huri⟩
  · exact fun he ↦ hhyphen ((htitles _).mp he)
  · exact fun h ↦ absurd (hsame.mpr h) (by decide)

end Change
end EventRelay.Wiki

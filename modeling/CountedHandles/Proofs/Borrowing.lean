import CountedHandles.Proofs.Ledgers
import CountedHandles.Roster

/-!
# Borrowed rosters

A roster lies in a cell from which it has to be borrowed before it can be read or changed, and a
roster that is borrowed cannot be borrowed again. Whoever follows a notice borrows the roster, and
gives it back also if the notice meets an objection. So notices that are followed one after another
always find the roster in its cell, and if they come from calls that are in order none of them meets
an objection.
-/

namespace CountedHandles

/-- The notice that a referent is called for, if it is called for one. -/
def Message.notice? : Message → Option Notice
  | .notice given => some given
  | _ => none

/-- A roster as several notices leave it that meet no objection. -/
def Roster.afterAll (roster : Roster) (notices : List Notice) : Roster :=
  notices.foldl Roster.after roster

/-- The roster without entries lists the handles that are attached to an empty ledger. -/
theorem Roster.contains_empty_iff (serial : Serial) :
    empty.contains serial = true ↔ serial ∈ Ledger.empty.attached := by
  simp [Ledger.empty]

/-- A cell with a roster. -/
structure RosterCell where
  /-- The roster. -/
  roster : Roster
  /-- Whether the roster is borrowed. -/
  borrowed : Bool
deriving DecidableEq

namespace RosterCell

/-- What can go wrong when a notice is followed. -/
inductive Trouble where
  /-- The roster is borrowed already. -/
  | borrowedTwice
  /-- The notice meets an objection. -/
  | objection (cause : Panic)
deriving DecidableEq

/-- A change of a cell. -/
abbrev Change := EStateM Trouble RosterCell

/-- A cell whose roster is not borrowed. -/
def free (roster : Roster) : RosterCell := ⟨roster, false⟩

/-- Borrows the roster from its cell. -/
def borrow : Change Roster := fun cell =>
  if cell.borrowed then .error .borrowedTwice cell
  else .ok cell.roster { cell with borrowed := true }

/-- Gives a roster back to its cell. -/
def giveBack (roster : Roster) : Change Unit :=
  set (free roster)

/-- Objects unless a condition holds; in some builds nobody objects. -/
def assert (assertions condition : Bool) (cause : Panic) : Change Unit :=
  if assertions && !condition then throw (.objection cause) else pure ()

/-- Follows a notice. Whether a handle was registered is told by what the change of the roster
replaces or takes out; a handle takes the place of another only if that was registered. -/
def follow (assertions : Bool) : Notice → Change Unit
  | .register serial => do
    let roster ← borrow
    giveBack (roster.insert serial .created)
    assert assertions (!roster.contains serial) (.registeredTwice serial)
  | .unregister serial => do
    let roster ← borrow
    giveBack (roster.erase serial)
    assert assertions (roster.contains serial) (.notRegistered serial)
  | .copy source destination => do
    let roster ← borrow
    giveBack (roster.insert destination (.copied source))
    assert assertions (!roster.contains destination) (.registeredTwice destination)
  | .move source destination => do
    let roster ← borrow
    if assertions && !roster.contains source then
      -- The objection unwinds through the borrow, which gives back the roster as it stands.
      giveBack (roster.erase source)
      throw (.objection (.notRegistered source))
    else giveBack ((roster.erase source).insert destination (.moved source))

/-- Follows notices one after the other. -/
def followAll (assertions : Bool) : List Notice → Change Unit
  | [] => pure ()
  | notice :: rest => do
    follow assertions notice
    followAll assertions rest

/-- Lists the registered handles. -/
def list : Change (List (Serial × Provenance)) := do
  let roster ← borrow
  giveBack roster
  return roster.listing

variable {roster : Roster} {assertions : Bool} {notice : Notice} {ledger last : Ledger}
  {messages : List Message}

/-- A handle that is not registered can be struck out without effect. -/
theorem erase_of_not_contains {serial : Serial} (h : roster.contains serial = false) :
    roster.erase serial = roster := by
  have hkeep : roster.entries.filter (fun entry => entry.1 != serial) = roster.entries := by
    refine List.filter_eq_self.mpr fun entry hentry => ?_
    rw [← Bool.not_eq_true, Roster.contains, Roster.provenance?, Option.isSome_map,
      List.find?_isSome] at h
    exact bne_iff_ne.mpr fun hserial => h ⟨entry, hentry, by simpa using hserial⟩
  rw [Roster.erase]
  simp only [hkeep]

/-- An objection is raised in a free cell without any change of it. -/
theorem run_assert (roster : Roster) (assertions condition : Bool) (cause : Panic) :
    assert assertions condition cause (free roster) =
      if assertions && !condition then .error (.objection cause) (free roster)
      else .ok () (free roster) := by
  unfold assert
  split
  · rfl
  · rfl

/-- A notice that is followed in a free cell leaves the cell free, and comes to the same as without
the cell. -/
theorem run_follow (roster : Roster) (assertions : Bool) (notice : Notice) :
    follow assertions notice (free roster) =
      match roster.follow assertions notice with
      | (after, none) => .ok () (free after)
      | (after, some cause) => .error (.objection cause) (free after) := by
  cases notice with
  | register serial =>
    have hrun : follow assertions (.register serial) (free roster) =
      assert assertions (!roster.contains serial) (.registeredTwice serial)
        (free (roster.insert serial .created)) := rfl
    rw [hrun, run_assert, Roster.follow, Roster.objection?]
    cases roster.contains serial <;> cases assertions <;> rfl
  | unregister serial =>
    have hrun : follow assertions (.unregister serial) (free roster) =
      assert assertions (roster.contains serial) (.notRegistered serial)
        (free (roster.erase serial)) := rfl
    rw [hrun, run_assert, Roster.follow, Roster.objection?]
    cases roster.contains serial <;> cases assertions <;> rfl
  | copy source destination =>
    have hrun : follow assertions (.copy source destination) (free roster) =
      assert assertions (!roster.contains destination) (.registeredTwice destination)
        (free (roster.insert destination (.copied source))) := rfl
    rw [hrun, run_assert, Roster.follow, Roster.objection?]
    cases roster.contains destination <;> cases assertions <;> rfl
  | move source destination =>
    have hrun : follow assertions (.move source destination) (free roster) =
      if assertions && !roster.contains source then
        .error (.objection (.notRegistered source)) (free (roster.erase source))
      else .ok () (free ((roster.erase source).insert destination (.moved source))) := by
      cases hobjects : assertions && !roster.contains source <;>
        simp only [follow, bind, EStateM.bind, borrow, free, Bool.false_eq_true, if_false, hobjects,
          if_true] <;> rfl
    rw [hrun, Roster.follow, Roster.objection?]
    cases hcontains : roster.contains source with
    | true => cases assertions <;> rfl
    | false =>
      cases assertions with
      | true =>
        rw [erase_of_not_contains hcontains]
        rfl
      | false => rfl

/-- A notice that fits a ledger meets no objection from a roster of the attached handles, which goes
on to list these. -/
theorem objection?_of_receive? {next : Ledger}
    (hroster : ∀ serial, roster.contains serial = true ↔ serial ∈ ledger.attached)
    (hreceived : ledger.receive? (.notice notice) = some next) :
    roster.objection? notice = none ∧
      ∀ serial, (roster.after notice).contains serial = true ↔ serial ∈ next.attached := by
  have habsent {serial : Serial} (h : serial ∉ ledger.attached) :
      roster.contains serial = false := by
    rw [← Bool.not_eq_true, hroster]
    exact h
  cases notice with
  | register serial =>
    simp only [Ledger.receive?, Option.ite_none_right_eq_some, Option.some.injEq] at hreceived
    obtain ⟨hfresh, rfl⟩ := hreceived
    refine ⟨by simp [Roster.objection?, habsent hfresh], fun other => ?_⟩
    simp [Roster.after, hroster]
  | unregister serial =>
    simp only [Ledger.receive?, Option.ite_none_right_eq_some, Option.some.injEq] at hreceived
    obtain ⟨hmem, rfl⟩ := hreceived
    refine ⟨by simp [Roster.objection?, (hroster serial).mpr hmem], fun other => ?_⟩
    simp [Roster.after, hroster]
  | copy source destination =>
    simp only [Ledger.receive?, Option.ite_none_right_eq_some, Option.some.injEq] at hreceived
    obtain ⟨⟨-, hfresh⟩, rfl⟩ := hreceived
    refine ⟨by simp [Roster.objection?, habsent hfresh], fun other => ?_⟩
    simp [Roster.after, hroster]
  | move source destination =>
    simp only [Ledger.receive?, Option.ite_none_right_eq_some, Option.some.injEq] at hreceived
    obtain ⟨⟨hmem, -⟩, rfl⟩ := hreceived
    refine ⟨by simp [Roster.objection?, (hroster source).mpr hmem], fun other => ?_⟩
    simp [Roster.after, hroster]

/-- The roster of a free cell can be listed. -/
theorem run_list (roster : Roster) : list (free roster) = .ok roster.listing (free roster) := rfl

/-- The notices among calls that are in order are followed without any trouble, and the roster goes
on to list the handles that are attached. -/
theorem run_followAll (assertions : Bool) (h : ledger.Follows messages last)
    (hroster : ∀ serial, roster.contains serial = true ↔ serial ∈ ledger.attached) :
    followAll assertions (messages.filterMap Message.notice?) (free roster) =
        .ok () (free (roster.afterAll (messages.filterMap Message.notice?))) ∧
      ∀ serial, (roster.afterAll (messages.filterMap Message.notice?)).contains serial = true ↔
        serial ∈ last.attached := by
  induction h generalizing roster with
  | nil _ => exact ⟨rfl, hroster⟩
  | cons balanced received follows ih =>
    rename_i ledger next last message rest
    cases message with
    | increment =>
      cases received
      exact ih hroster
    | decrement =>
      simp only [Ledger.receive?, Option.ite_none_right_eq_some, Option.some.injEq] at received
      obtain ⟨-, rfl⟩ := received
      exact ih hroster
    | notice notice =>
      obtain ⟨hobjection, hafter⟩ := objection?_of_receive? hroster received
      obtain ⟨hrest, hlists⟩ := ih hafter
      refine ⟨?_, hlists⟩
      have hfollow := run_follow roster assertions notice
      rw [Roster.follow, hobjection] at hfollow
      simp only [List.filterMap_cons, Message.notice?, followAll, bind, EStateM.bind, hfollow]
      exact hrest

end RosterCell

end CountedHandles

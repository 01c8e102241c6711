import CountedHandles.Proofs.Locality
import CountedHandles.Proofs.Renumbering

/-!
# Independent commands

Commands that create, change or drop handles can change places if they name different handles, even
if these hold the same referents. In either order each command comes to the same, and the sessions
that they lead to are the same up to an exchange of the numbers that the one command gives out for
those that the other one does.
-/

namespace CountedHandles

/-- The names of the handles that a command is about, if all that it does is to create, change and
drop handles. -/
def Command.handleNames? : Command → Option (List String)
  | .onHandle command => some command.names
  | .change command => some command.names
  | _ => none

/-- A command on handles calls no referent directly. -/
theorem Command.isCall_of_handleNames? {command : Command} {names : List String}
    (h : command.handleNames? = some names) : command.isCall = false := by
  cases command <;> first | rfl | cases h

namespace Serial

variable {next mine theirs s : Serial}

/-- The numbers of two blocks that follow each other when the blocks change places. -/
def transpose (next mine theirs s : Serial) : Serial :=
  if s < next then s
  else if s < next + mine then s + theirs
  else if s < next + mine + theirs then s - mine
  else s

/-- Two blocks that change places and change them back are where they were. -/
theorem transpose_transpose : transpose next theirs mine (transpose next mine theirs s) = s := by
  unfold transpose
  grind

/-- The exchange of two blocks of numbers that follow each other. -/
def transposition (next mine theirs : Serial) : Equiv.Perm Serial where
  toFun := transpose next mine theirs
  invFun := transpose next theirs mine
  left_inv := fun _ => transpose_transpose
  right_inv := fun _ => transpose_transpose

/-- Up to the end of the first block numbers are put off by the second block. -/
theorem transposition_of_lt (h : s < next + mine) :
    transposition next mine theirs s = shift next theirs s := by
  change transpose next mine theirs s = shift next theirs s
  unfold transpose shift
  grind

/-- Numbers up to the end of the second block that are put off by the first block come back. -/
theorem transposition_shift (h : s < next + theirs) :
    transposition next mine theirs (shift next mine s) = s := by
  change transpose next mine theirs (shift next mine s) = s
  unfold transpose shift
  grind

/-- Numbers before and after the two blocks stay. -/
theorem transposition_of_outside (h : s < next ∨ next + mine + theirs ≤ s) :
    transposition next mine theirs s = s := by
  change transpose next mine theirs s = s
  unfold transpose
  grind

end Serial

open Turn

namespace Session

variable {config : Config} {names : List String} {session session' after : Session}
  {command : Command} {shown : Step}

/-- A member of a set is kept there. -/
theorem mem_kept_of_mem_members {scheme : Scheme} {s : Serial} (h : s ∈ session.members scheme) :
    s ∈ session.kept := by
  refine List.mem_append_left _ ?_
  cases scheme with
  | raw => exact List.mem_append_left _ (List.mem_append_right _ h)
  | packed => exact List.mem_append_right _ h

/-- A command on handles never ends a run. -/
theorem Holding.exists_step (h : session.Sound config)
    (hnames : command.handleNames? = some names) :
    ∃ shown after, session.step config (command.run config) = .ok (shown, after) := by
  refine h.exists_step_of_ne_destroy (Command.isCall_of_handleNames? hnames) ?_
  rintro name rfl
  cases hnames

/-- Steps of turns that agree have one outcome and lead to sessions that agree. -/
theorem step_of_agree {twins : Twins config names} {turn : Turn Answer}
    (h : twins.TurnsAgree twins.Same turn turn session.clearEvents session'.clearEvents)
    (hstep : session.step config turn = .ok (shown, after)) :
    ∃ shown' after', session'.step config turn = .ok (shown', after') ∧
      shown'.outcome = shown.outcome ∧ twins.SessionsAgree after after' := by
  unfold Twins.TurnsAgree at h
  unfold step at hstep ⊢
  cases hturn : turn session.clearEvents with
  | ok answer reached =>
    cases hturn' : turn session'.clearEvents with
    | ok answer' reached' =>
      rw [hturn, hturn'] at h
      rw [hturn] at hstep
      obtain ⟨rfl, hagree⟩ := h
      cases hstep
      exact ⟨_, _, rfl, rfl, hagree⟩
    | error stop' reached' => rw [hturn, hturn'] at h; exact h.elim
  | error stop reached =>
    cases hturn' : turn session'.clearEvents with
    | ok answer' reached' => rw [hturn, hturn'] at h; exact h.elim
    | error stop' reached' =>
      rw [hturn, hturn'] at h
      rw [hturn] at hstep
      obtain ⟨rfl, hagree⟩ := h
      cases stop' with
      | refused refusal =>
        cases hstep
        exact ⟨_, _, rfl, rfl, hagree⟩
      | fault fault =>
        cases fault with
        | panic cause =>
          cases hstep
          exact ⟨_, _, rfl, rfl, hagree⟩
        | violation violation => cases hstep
        | collapse => cases hstep

end Session

/-- A command on handles comes to the same on twin sessions. -/
theorem Command.agree_run {config : Config} {names : List String} {command : Command}
    (hnames : command.handleNames? = some names) (twins : Twins config names) :
    twins.TurnsAgree twins.Same (command.run config) (command.run config) twins.first
      twins.second := by
  cases command with
  | onHandle command =>
    cases hnames
    exact command.agree_run twins
  | change command =>
    cases hnames
    exact command.agree_run twins
  | _ => cases hnames

namespace Twins

variable {config : Config} {mine theirs : List String} {session one two one' two' : Session}

/-- A session is a twin of itself. -/
def self (names : List String) (h : session.Sound config) (hdated : session.store.Dated) :
    Twins config names where
  first := session.clearEvents
  second := session.clearEvents
  first_sound := h.clearEvents
  second_sound := h.clearEvents
  dated := hdated
  nextSerial_le := Nat.le_refl _
  created_eq := rfl
  ground_eq := rfl
  serial?_eq := fun _ _ => rfl
  standing?_eq := fun _ _ _ _ => rfl

/-- Handles under different names are different. -/
theorem not_owns_of_disjoint {twins : Twins config mine} {others : Twins config theirs} {s : Serial}
    (hfirst : others.first = twins.first) (hdisjoint : mine.Disjoint theirs)
    (howns : twins.Owns s) : ¬ others.Owns s := by
  rintro ⟨other, hother, hotherSerial⟩
  obtain ⟨name, hname, hserial⟩ := howns
  rw [hfirst] at hotherSerial
  refine twins.first_sound.serial?_ne hserial hotherSerial ?_ rfl
  rintro rfl
  exact hdisjoint hname hother

/-- For the names that a command is not about, the session that it leads to is a twin of the one
before it. -/
def aside (twins : Twins config mine) (h : twins.SessionsAgree one one') (hone : one.Sound config)
    (hdisjoint : mine.Disjoint theirs) : Twins config theirs where
  first := twins.first
  second := one.clearEvents
  first_sound := twins.first_sound
  second_sound := hone.clearEvents
  dated := twins.dated
  nextSerial_le := h.next_le
  created_eq := h.created_first
  ground_eq := h.ground_first
  serial?_eq := fun name hname => h.serial?_first name fun hmine => hdisjoint hmine hname
  standing?_eq := by
    intro name hname s hserial
    refine h.standing?_first s (lt_of_serial? hserial) ?_
    rintro ⟨other, hother, hotherSerial⟩
    refine twins.first_sound.serial?_ne hserial hotherSerial ?_ rfl
    rintro rfl
    exact hdisjoint hother hname

/-! ## Both orders -/

section Orders

variable {first : Twins config mine} {second : Twins config theirs}
  (hfirst : second.first = first.first) (hone : second.second = one.clearEvents)
  (htwo : first.second = two.clearEvents) (hdisjoint : mine.Disjoint theirs)
  (hmine : first.SessionsAgree one one') (htheirs : second.SessionsAgree two two')

/-- The numbers of the one command and those of the other change places. -/
def crossing (first : Twins config mine) (second : Twins config theirs) : Equiv.Perm Serial :=
  Serial.transposition first.first.store.nextSerial second.given first.given

include hfirst hone in
/-- The one command gives out the numbers that the second command finds given out. -/
theorem nextSerial_one :
    one.store.nextSerial = first.first.store.nextSerial + second.given := by
  rw [← hfirst, ← nextSerial_second, hone]
  rfl

include htwo in
/-- The other command gives out the numbers that the first command finds given out. -/
theorem nextSerial_two :
    two.store.nextSerial = first.first.store.nextSerial + first.given := by
  rw [← nextSerial_second, htwo]
  rfl

include hfirst hone in
/-- What the one command leads to is put off by the other. -/
theorem crossing_of_lt {s : Serial} (h : s < one.store.nextSerial) :
    crossing first second s = first.shift s :=
  Serial.transposition_of_lt (nextSerial_one hfirst hone ▸ h)

include hfirst htwo in
/-- What the other command leads to comes back from where it was put off. -/
theorem crossing_shift {s : Serial} (h : s < two.store.nextSerial) :
    crossing first second (second.shift s) = s := by
  rw [crossing, shift, hfirst]
  exact Serial.transposition_shift (nextSerial_two htwo ▸ h)

/-- Handles that were there before the two commands keep their numbers. -/
theorem crossing_of_first {s : Serial} (h : s < first.first.store.nextSerial) :
    crossing first second s = s :=
  Serial.transposition_of_outside (Or.inl h)

include hfirst hone hdisjoint hmine htheirs in
/-- After both commands the handles that the one is about stand in the same way. -/
theorem standing?_of_mine {s : Serial} (hdated : one.store.Dated) (hwithin : first.Within s)
    (hlt : s < one.store.nextSerial) :
    one'.store.standing? (crossing first second s) =
      (two'.store.standing? s).map (Standing.renumber (crossing first second)) := by
  have hstays : two'.store.standing? s = one.store.standing? s := by
    refine (htheirs.standing?_second s (by rwa [hone]) fun howns => ?_).trans (by rw [hone]; rfl)
    exact hwithin.elim (fun hmine => not_owns_of_disjoint hfirst hdisjoint hmine howns)
      (Nat.not_le_of_lt (hfirst ▸ howns.lt))
  rw [crossing_of_lt hfirst hone hlt, hstays]
  refine (hmine.standing?_eq s hwithin).trans (hdated.map_renumber_congr fun t ht => ?_)
  exact (crossing_of_lt hfirst hone ht).symm

include hfirst htwo hdisjoint hmine htheirs in
/-- After both commands the handles that the other is about stand in the same way. -/
theorem standing?_of_theirs {s : Serial} (hdated : two.store.Dated) (hwithin : second.Within s)
    (hlt : s < two.store.nextSerial) :
    one'.store.standing? (crossing first second (second.shift s)) =
      (two'.store.standing? (second.shift s)).map
        (Standing.renumber (crossing first second)) := by
  have hstays : one'.store.standing? s = two.store.standing? s := by
    refine (hmine.standing?_second s (by rwa [htwo]) fun howns => ?_).trans (by rw [htwo]; rfl)
    exact hwithin.elim (not_owns_of_disjoint hfirst hdisjoint howns)
      (Nat.not_le_of_lt (hfirst ▸ howns.lt))
  have hputOff : two'.store.standing? (second.shift s) =
      (two.store.standing? s).map (Standing.renumber second.shift) :=
    htheirs.standing?_eq s hwithin
  rw [crossing_shift hfirst htwo hlt, hstays, hputOff, Option.map_map, Standing.renumber_comp,
    hdated.map_renumber_of_fixed]
  exact fun t ht => crossing_shift hfirst htwo ht

include hfirst hone htwo hmine htheirs in
/-- After both commands the handles that neither is about stand in the same way. -/
theorem standing?_of_neither {s : Serial} (hlt : s < first.first.store.nextSerial)
    (hnotMine : ¬ first.Owns s) (hnotTheirs : ¬ second.Owns s) :
    one'.store.standing? (crossing first second s) =
      (two'.store.standing? s).map (Standing.renumber (crossing first second)) := by
  have hltOne : s < second.second.store.nextSerial :=
    Nat.lt_of_lt_of_le (hfirst ▸ hlt) second.nextSerial_le
  have hltTwo : s < first.second.store.nextSerial := Nat.lt_of_lt_of_le hlt first.nextSerial_le
  have hone' : two'.store.standing? s = first.first.store.standing? s := by
    refine (htheirs.standing?_second s hltOne hnotTheirs).trans ?_
    rw [hone]
    exact hmine.standing?_first s hlt hnotMine
  have htwo' : one'.store.standing? s = first.first.store.standing? s := by
    refine (hmine.standing?_second s hltTwo hnotMine).trans ?_
    rw [htwo, ← hfirst]
    exact htheirs.standing?_first s (hfirst ▸ hlt) hnotTheirs
  rw [crossing_of_first hlt, hone', htwo', first.dated.map_renumber_of_fixed]
  exact fun t ht => crossing_of_first ht

include hfirst hone htwo hmine htheirs in
/-- As many numbers have been given out in both orders, namely those of both commands. -/
theorem nextSerial_crossing :
    two'.store.nextSerial = first.first.store.nextSerial + second.given + first.given ∧
      one'.store.nextSerial = two'.store.nextSerial := by
  rw [hmine.nextSerial_add, htheirs.nextSerial_add, nextSerial_one hfirst hone, nextSerial_two htwo]
  constructor <;> lia

include hfirst hone htwo hmine htheirs in
/-- After both commands there are no handles with numbers that are still to be given out. -/
theorem standing?_of_new {s : Serial} (hnew : two'.store.nextSerial ≤ s) :
    one'.store.standing? (crossing first second s) =
      (two'.store.standing? s).map (Standing.renumber (crossing first second)) := by
  obtain ⟨hnext, hsame⟩ := nextSerial_crossing hfirst hone htwo hmine htheirs
  have hstays : crossing first second s = s :=
    Serial.transposition_of_outside (Or.inr (hnext ▸ hnew))
  have hnone : one'.store.handle? s = none :=
    hmine.consistent'.handle?_of_le (hsame ▸ hnew)
  rw [hstays, Store.standing?, hnone, Store.standing?, htheirs.consistent'.handle?_of_le hnew]
  rfl

include hfirst hone htwo hdisjoint hmine htheirs

/-- After both commands every handle stands in the same way, whichever command was the first. -/
theorem standing?_crossing (hdatedOne : one.store.Dated) (hdatedTwo : two.store.Dated)
    (s : Serial) :
    one'.store.standing? (crossing first second s) =
      (two'.store.standing? s).map (Standing.renumber (crossing first second)) := by
  by_cases hnew : two'.store.nextSerial ≤ s
  · exact standing?_of_new hfirst hone htwo hmine htheirs hnew
  by_cases hours : first.Within s ∧ s < one.store.nextSerial
  · exact standing?_of_mine hfirst hone hdisjoint hmine htheirs hdatedOne hours.1 hours.2
  by_cases hyours : ∃ t, second.Within t ∧ t < two.store.nextSerial ∧ second.shift t = s
  · obtain ⟨t, hwithin, hlt, rfl⟩ := hyours
    exact standing?_of_theirs hfirst htwo hdisjoint hmine htheirs hdatedTwo hwithin hlt
  have hold : s < first.first.store.nextSerial := by
    by_contra hlater
    -- A number that neither command has given out is one that none has given out.
    have hwithin : first.Within s := Or.inr (Nat.le_of_not_lt hlater)
    have hlast : one.store.nextSerial ≤ s := Nat.le_of_not_lt fun hlt => hours ⟨hwithin, hlt⟩
    have hnext := (nextSerial_crossing hfirst hone htwo hmine htheirs).1
    rw [nextSerial_one hfirst hone] at hlast
    have hle : first.first.store.nextSerial ≤ s - second.given := Nat.le_sub_of_add_le hlast
    refine hyours ⟨s - second.given, Or.inr (hfirst ▸ hle), ?_, ?_⟩
    · rw [nextSerial_two htwo]
      lia
    · rw [shift, hfirst, Serial.shift_of_le hle]
      lia
  have hle : first.first.store.nextSerial ≤ one.store.nextSerial := hmine.next_le
  refine standing?_of_neither hfirst hone htwo hmine htheirs hold (fun howns => ?_) fun howns => ?_
  · exact hours ⟨Or.inl howns, Nat.lt_of_lt_of_le hold hle⟩
  · exact hyours ⟨s, Or.inl howns, Nat.lt_of_lt_of_le howns.lt htheirs.next_le, howns.shift_eq⟩

/-- After both commands every name stands for the same handle, up to its number. -/
theorem serial?_crossing (honeSound : one.Sound config) (htwoSound : two.Sound config)
    (name : String) :
    one'.serial? name = (two'.serial? name).map (crossing first second) := by
  have hsecondOne (name : String) : second.second.serial? name = one.serial? name := by
    rw [hone]
    rfl
  have hsecondTwo (name : String) : first.second.serial? name = two.serial? name := by
    rw [htwo]
    rfl
  by_cases hours : name ∈ mine
  · rw [hmine.serial?_eq name hours, htheirs.serial?_second name (hdisjoint hours), hsecondOne]
    refine Option.map_congr fun s hserial => (crossing_of_lt hfirst hone ?_).symm
    exact honeSound.lt_of_mem_kept (Session.mem_kept_of_serial? hserial)
  rw [hmine.serial?_second name hours, hsecondTwo]
  by_cases hyours : name ∈ theirs
  · rw [htheirs.serial?_eq name hyours, Option.map_map]
    cases hserial : two.serial? name with
    | none => rfl
    | some s =>
      have hlt := htwoSound.lt_of_mem_kept (Session.mem_kept_of_serial? hserial)
      rw [Option.map_some, Function.comp_apply, crossing_shift hfirst htwo hlt]
  · rw [htheirs.serial?_second name hyours, hsecondOne, hmine.serial?_first name hours,
      htheirs.serial?_first name hyours, hfirst]
    cases hserial : first.first.serial? name with
    | none => rfl
    | some s => rw [Option.map_some, crossing_of_first (lt_of_serial? hserial)]

/-- After both commands the sessions are the same up to the numbers of new handles. -/
theorem renumbered_crossing (honeSound : one.Sound config) (htwoSound : two.Sound config)
    (hdatedOne : one.store.Dated) (hdatedTwo : two.store.Dated) :
    two'.Renumbered (crossing first second) one' := by
  have hstanding := standing?_crossing hfirst hone htwo hdisjoint hmine htheirs hdatedOne hdatedTwo
  have hcreated : one'.created = first.first.created := by
    rw [hmine.created_second, htwo]
    exact htheirs.created_first.trans (congrArg Session.created hfirst)
  have hcreated' : two'.created = first.first.created := by
    rw [htheirs.created_second, hone]
    exact hmine.created_first
  have hmembers (scheme : Scheme) : one'.members scheme = first.first.members scheme := by
    rw [hmine.members_second, htwo, ← hfirst, ← htheirs.members_first]
    cases scheme <;> rfl
  have hmembers' (scheme : Scheme) : two'.members scheme = first.first.members scheme := by
    rw [htheirs.members_second, hone, ← hmine.members_first]
    cases scheme <;> rfl
  have hground : one'.store.census.ground = first.first.store.census.ground :=
    hmine.ground_eq.trans hmine.ground_first
  have hground' : two'.store.census.ground = first.first.store.census.ground :=
    htheirs.ground_eq.trans (htheirs.ground_first.trans (by rw [hfirst]))
  refine ⟨(nextSerial_crossing hfirst hone htwo hmine htheirs).2, hcreated.trans hcreated'.symm,
    serial?_crossing hfirst hone htwo hdisjoint hmine htheirs honeSound htwoSound,
    fun scheme => ?_, fun s => ?_, ?_⟩
  · rw [hmembers, hmembers']
    refine ((List.map_congr_left fun s hmem => crossing_of_first ?_).trans (List.map_id' _)).symm
    exact first.first_sound.lt_of_mem_kept (Session.mem_kept_of_mem_members hmem)
  · rw [Store.handle?_eq_map_standing?, hstanding, Store.handle?_eq_map_standing?, Option.map_map,
      Option.map_map]
    rfl
  · refine Store.referents_renumbered htheirs.consistent' hmine.consistent' hstanding
      (hground.trans hground'.symm) fun referent hmem s hlink => crossing_of_first ?_
    have hbare : referent.bare ∈ first.first.store.census.ground :=
      hground' ▸ List.mem_map_of_mem hmem
    obtain ⟨old, hold, holdBare⟩ := List.mem_map.mp hbare
    have hlinks : old.bare.links = referent.bare.links := congrArg Referent.links holdBare
    have hlinked : s ∈ old.links := hlinks ▸ hlink
    refine first.first_sound.lt_of_mem_kept (List.mem_append_right _ ?_)
    exact List.mem_flatMap.mpr ⟨old, hold, hlinked⟩

end Orders

end Twins

namespace Session

variable {config : Config} {names mine theirs : List String} {session : Session}
  {command first second : Command}

/-- A command on handles leads to a sound session, which agrees with itself. -/
theorem Holding.exists_step_agree (h : session.Sound config) (hdated : session.store.Dated)
    (hnames : command.handleNames? = some names) :
    ∃ shown after, session.step config (command.run config) = .ok (shown, after) ∧
      after.Sound config ∧ after.store.Dated ∧
        (Twins.self names h hdated).SessionsAgree after after := by
  obtain ⟨shown, after, hstep⟩ := h.exists_step hnames
  have hleads := h.leads_of_step (Command.isCall_of_handleNames? hnames) hstep
  obtain ⟨_, _, hagain, -, hagree⟩ :=
    step_of_agree (Command.agree_run hnames (Twins.self names h hdated)) hstep
  cases hstep.symm.trans hagain
  exact ⟨shown, after, hstep, hleads.holding,
    hleads.course.dated h.clearEvents.consistent hdated, hagree⟩

/-- From a sound session commands on different handles lead to the same in either order, up to an
exchange of the numbers that they give out. -/
theorem Holding.commute (h : session.Sound config) (hdated : session.store.Dated)
    (hfirst : first.handleNames? = some mine) (hsecond : second.handleNames? = some theirs)
    (hdisjoint : mine.Disjoint theirs) :
    ∃ one two after one' two' after', ∃ change : Equiv.Perm Serial,
      session.steps config [first.run config, second.run config] = ([one, two], .ok after) ∧
      session.steps config [second.run config, first.run config] = ([two', one'], .ok after') ∧
      one'.outcome = one.outcome ∧ two'.outcome = two.outcome ∧
      (∀ s, change s ≠ s → session.store.nextSerial ≤ s ∧ s < after.store.nextSerial) ∧
      after.Renumbered change after' := by
  obtain ⟨shownOne, one, hstepOne, hone, hdatedOne, hagreeOne⟩ := h.exists_step_agree hdated hfirst
  obtain ⟨shownTwo, two, hstepTwo, htwo, hdatedTwo, hagreeTwo⟩ := h.exists_step_agree hdated hsecond
  -- Each command finds a twin of the session, whether or not the other one has been before it.
  let firsts : Twins config mine := (Twins.self theirs h hdated).aside hagreeTwo htwo hdisjoint.symm
  let seconds : Twins config theirs := (Twins.self mine h hdated).aside hagreeOne hone hdisjoint
  obtain ⟨shownOne', one', hstepOne', hsameOne, hmine⟩ :=
    step_of_agree (Command.agree_run hfirst firsts) hstepOne
  obtain ⟨shownTwo', two', hstepTwo', hsameTwo, htheirs⟩ :=
    step_of_agree (Command.agree_run hsecond seconds) hstepTwo
  have hfirsts : seconds.first = firsts.first := rfl
  refine ⟨shownOne, shownTwo', two', shownOne', shownTwo, one', Twins.crossing firsts seconds,
    ?_, ?_, hsameOne, hsameTwo.symm, fun s hmoved => ?_,
    Twins.renumbered_crossing hfirsts rfl rfl hdisjoint hmine htheirs hone htwo hdatedOne hdatedTwo⟩
  · rw [steps_cons_of_ok hstepOne, steps_cons_of_ok hstepTwo']
    rfl
  · rw [steps_cons_of_ok hstepTwo, steps_cons_of_ok hstepOne']
    rfl
  · by_contra houtside
    refine hmoved (Serial.transposition_of_outside ?_)
    have hnext := (Twins.nextSerial_crossing hfirsts rfl rfl hmine htheirs).1
    rw [hnext, not_and_or, not_le, not_lt] at houtside
    exact houtside

end Session

namespace Program

/-- Wherever a program gets that leaves calls to handles, two commands on different handles can
change places: each comes to the same, and the sessions that they lead to are the same up to an
exchange of the numbers of new handles. -/
theorem handle_commands_commute {program : Program} {steps : List Step} {session : Session}
    {first second : Command} {mine theirs : List String} (hcalls : program.LeavesCalls)
    (hbody : program.body = (steps, .ok session)) (hfirst : first.handleNames? = some mine)
    (hsecond : second.handleNames? = some theirs) (hdisjoint : mine.Disjoint theirs) :
    ∃ one two after one' two' after', ∃ change : Equiv.Perm Serial,
      session.steps program.config [first.run program.config, second.run program.config] =
        ([one, two], .ok after) ∧
      session.steps program.config [second.run program.config, first.run program.config] =
        ([two', one'], .ok after') ∧
      one'.outcome = one.outcome ∧ two'.outcome = two.outcome ∧
      (∀ s, change s ≠ s → session.store.nextSerial ≤ s ∧ s < after.store.nextSerial) ∧
      after.Renumbered change after' := by
  have hreached := reached_of_body hcalls hbody
  exact hreached.sound.commute hreached.dated hfirst hsecond hdisjoint

/-- A program that ends with two pointers to one referent. -/
def independenceExample : Program where
  config := ⟨⟨true, true⟩, .ordinary, .off⟩
  commands :=
    [.onReferent (.create "a" 1 none), .onHandle (.hold .pointer "p" .packed "a"),
      .onHandle (.hold .pointer "q" .packed "a")]

/-- After that program one pointer can be copied before or after the other one becomes a reference,
and the number of the copy tells which has been the case. -/
theorem commute_independenceExample :
    independenceExample.body = (independenceExample.body.1, .ok independenceExample.final) ∧
      ∃ one two after one' two' after', ∃ change : Equiv.Perm Serial,
        independenceExample.final.steps independenceExample.config
            [Command.run independenceExample.config (.onHandle (.copy "r" "p")),
              Command.run independenceExample.config (.onHandle (.toReference "s" "q"))] =
          ([one, two], .ok after) ∧
        independenceExample.final.steps independenceExample.config
            [Command.run independenceExample.config (.onHandle (.toReference "s" "q")),
              Command.run independenceExample.config (.onHandle (.copy "r" "p"))] =
          ([two', one'], .ok after') ∧
        one'.outcome = one.outcome ∧ two'.outcome = two.outcome ∧
        after.Renumbered change after' ∧
        after.serial? "r" = some 3 ∧ after'.serial? "r" = some 4 ∧ change 3 = 4 := by
  have hcalls : independenceExample.LeavesCalls := by
    simp [LeavesCalls, independenceExample, Command.isCall]
  have hbody :
    independenceExample.body = (independenceExample.body.1, .ok independenceExample.final) := rfl
  obtain ⟨one, two, after, one', two', after', change, hsteps, hsteps', hone, htwo, -, hsame⟩ :=
    @handle_commands_commute _ _ _ (.onHandle (.copy "r" "p")) (.onHandle (.toReference "s" "q"))
      _ _ hcalls hbody rfl rfl (by simp [HandleCommand.names])
  have hcopied : after.serial? "r" = some 3 := by
    have hresult := congrArg (fun run => run.2.toOption.bind fun after => after.serial? "r") hsteps
    exact hresult.symm
  have hcopied' : after'.serial? "r" = some 4 := by
    have hresult := congrArg (fun run => run.2.toOption.bind fun after => after.serial? "r") hsteps'
    exact hresult.symm
  have hchange := hsame.serial?_eq "r"
  rw [hcopied, hcopied', Option.map_some, Option.some.injEq] at hchange
  exact ⟨hbody, one, two, after, one', two', after', change, hsteps, hsteps', hone, htwo, hsame,
    hcopied, hcopied', hchange.symm⟩

end Program

end CountedHandles

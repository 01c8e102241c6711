import CountedHandles.Proofs.Closing
import CountedHandles.Proofs.Translation

/-!
# Raw and packed runs

A program whose handles are all raw goes in lockstep with the same program on packed handles, as
long as it gives no address that does not fit. Every step comes to the same and leads to sessions
with the same referents and with handles that differ in nothing but the mark of a deleted bucket.
The same holds of the closing of the program.
-/

namespace CountedHandles

namespace Sorting

variable {before : α → α → Bool} {after : β → β → Bool} {image : α → β}

/-- A value is inserted alike where its image is in order with the others exactly as it is. -/
theorem insert_map {value : α} {sorted : List α}
    (h : ∀ other ∈ sorted, after (image value) (image other) = before value other) :
    insert after (image value) (sorted.map image) = (insert before value sorted).map image := by
  induction sorted with
  | nil => rfl
  | cons head rest ih =>
    rw [List.map_cons, insert, insert, h head List.mem_cons_self,
      ih fun other hother => h other (List.mem_cons_of_mem _ hother)]
    split <;> rfl

/-- Values are sorted alike where their images are in order exactly as they are. -/
theorem sort_map {values : List α}
    (h : ∀ a ∈ values, ∀ b ∈ values, after (image a) (image b) = before a b) :
    sort after (values.map image) = (sort before values).map image := by
  induction values with
  | nil => rfl
  | cons value rest ih =>
    have hrest := ih fun a ha b hb =>
      h a (List.mem_cons_of_mem _ ha) b (List.mem_cons_of_mem _ hb)
    change insert after (image value) (sort after (rest.map image)) = _
    rw [hrest]
    refine insert_map fun other hother => h value List.mem_cons_self other ?_
    exact List.mem_cons_of_mem _ ((sort_perm before rest).mem_iff.mp hother)

end Sorting

/-! ## What raw and packed handles have in common -/

/-- A packed handle agrees with a raw one in all but its address if it is a deleted bucket. -/
structure Handle.Counterparts (raw packed : Handle) : Prop where
  /-- They have the same serial number. -/
  serial_eq : packed.serial = raw.serial
  /-- They are of the same form. -/
  form_eq : packed.form = raw.form
  /-- They are of different schemes. -/
  schemes : raw.scheme = .raw ∧ packed.scheme = .packed
  /-- They are null at the same time. -/
  isNull_eq : packed.slot.isNull = raw.slot.isNull
  /-- They are deleted at the same time. -/
  isDeleted_eq : packed.slot.isDeleted = raw.slot.isDeleted
  /-- They lead to the same address, or both lead nowhere. -/
  target?_eq : packed.slot.target? = raw.slot.target?
  /-- Unless they are deleted, they show the same address, hash input and text. -/
  shown_eq : raw.slot.isDeleted = false → packed.address = raw.address ∧
    packed.hashBytes = raw.hashBytes ∧ ∀ style, packed.text style = raw.text style
  /-- If they are deleted, each shows the mark of its scheme. -/
  marks : raw.slot.isDeleted = true →
    raw.address = 0xffffffffffffffff ∧ packed.address = 0xffffffffffff
  /-- If they are deleted, no text under the name of the form shows the mark. -/
  masked : raw.slot.isDeleted = true → packed.text .block = raw.text .block ∧
    ∀ padding, packed.text (.line padding) = raw.text (.line padding)

/-- Whether the handles with two serial numbers are equal, if both exist. -/
def Store.equal? (store : Store) (a b : Serial) : Option Bool :=
  (store.handle? a).bind fun first => (store.handle? b).map first.equal

/-- Two sessions agree in all but how their handles keep their addresses. -/
structure Session.Counterparts (raw packed : Session) : Prop where
  /-- The same referents were created. -/
  created_eq : packed.created = raw.created
  /-- The same referents exist, with the same counts, rosters, values and links. -/
  referents_eq : packed.store.referents = raw.store.referents
  /-- The same serial numbers are taken. -/
  nextSerial_eq : packed.store.nextSerial = raw.store.nextSerial
  /-- The same handles are kept under names. -/
  names_eq : packed.names = raw.names
  /-- The same handles are kept in the set of the scheme. -/
  members_eq : packed.packedSet = raw.rawSet
  /-- Nothing is kept in the other set. -/
  others_eq : raw.packedSet = [] ∧ packed.rawSet = []
  /-- Every handle has its counterpart. -/
  handles : List.Forall₂ Handle.Counterparts raw.store.handles packed.store.handles
  /-- The same handles are equal. -/
  equal?_eq : ∀ a b, packed.store.equal? a b = raw.store.equal? a b

/-- A handle of a sound session is the counterpart of its packed self. -/
theorem Handle.counterparts_pack {handle : Handle} (h : handle.slot.Packable)
    (hlive : handle.form = .reference → handle.slot.isDeleted = false) :
    handle.Counterparts handle.pack where
  serial_eq := rfl
  form_eq := rfl
  schemes := ⟨h.scheme_eq, scheme_pack⟩
  isNull_eq := h.isNull_pack
  isDeleted_eq := h.isDeleted_pack
  target?_eq := h.target?_pack
  shown_eq := fun hdeleted =>
    ⟨address_pack h hdeleted, hashBytes_pack h hdeleted, fun _ => text_pack h hdeleted⟩
  marks := by
    intro hdeleted
    rw [Slot.isDeleted_iff, h.scheme_eq] at hdeleted
    have haddress : handle.address = 0xffffffffffffffff := hdeleted
    refine ⟨haddress, ?_⟩
    rw [address_pack_eq h, haddress]
    decide
  masked := by
    intro hdeleted
    have hmark := deletedText?_eq_some hlive hdeleted
    simp only [text, deletedText?_pack h, hmark, Option.getD_some, implies_true, and_self]

/-! ## Steps -/

/-- What a step comes to, and what it comes to once all handles are packed. -/
inductive Outcome.Packs : Outcome → Outcome → Prop
  | answered {answer answer' : Answer} (h : answer.Packs answer') :
      Packs (.answered answer) (.answered answer')
  | refused (refusal : Refusal) : Packs (.refused refusal) (.refused refusal)
  | panicked (cause : Panic) : Packs (.panicked cause) (.panicked cause)

/-- What a step shows, and what it shows once all handles are packed. -/
structure Step.Packs (shown packed : Step) : Prop where
  /-- Both come to the same. -/
  outcome : shown.outcome.Packs packed.outcome
  /-- The counts of all referents are the same. -/
  counts_eq : packed.counts = shown.counts
  /-- The same things happen. -/
  events_eq : packed.events = shown.events.map Event.pack
  /-- Referents receive the same calls. -/
  calls_eq : packed.events.filterMap Event.call? = shown.events.filterMap Event.call?
  /-- Calls and log records are shown alike, whatever is shown of them. -/
  trace_eq : ∀ config : Config, config.trace packed.events = config.trace shown.events

/-- The end of a run, once all handles are packed. -/
def Abortion.pack : Abortion → Abortion
  | .violation report channel events => .violation report channel (events.map Event.pack)
  | .collapse => .collapse

/-- What a run shows, and what it shows once all handles are packed. -/
structure Transcript.Packs (shown packed : Transcript) : Prop where
  /-- The runs have the same steps. -/
  steps : List.Forall₂ Step.Packs shown.steps packed.steps
  /-- The runs are aborted for the same reason, or neither is. -/
  abortion?_eq : packed.abortion? = shown.abortion?.map Abortion.pack

namespace Session

/-- Where a run gets, once all handles are packed. -/
def packResult : Except Abortion Session → Except Abortion Session
  | .ok session => .ok session.pack
  | .error abortion => .error abortion.pack

/-- A run on raw handles and one on packed handles go in step if they start from counterparts, every
step is completed or aborted in both and shows the same, and the rest goes in step. -/
def InStep (config : Config) : List Command → Session → Session → Prop
  | [], raw, packed => raw.Counterparts packed
  | command :: rest, raw, packed =>
    raw.Counterparts packed ∧
      match raw.step config (command.run config), packed.step config (command.pack.run config) with
      | .ok (shown, after), .ok (shown', after') =>
        shown.Packs shown' ∧ InStep config rest after after'
      | .error abortion, .error abortion' => abortion' = abortion.pack
      | _, _ => False

variable {config : Config} {session after : Session} {turn packed : Turn Answer}
  {turns turns' : List (Turn Answer)} {shown : Step} {past : List Step} {commands : List Command}

/-- A sound session is the counterpart of its packed self. -/
theorem Sound.counterparts_pack (hsound : session.Sound config) (h : session.Packable) :
    session.Counterparts session.pack where
  created_eq := rfl
  referents_eq := rfl
  nextSerial_eq := rfl
  names_eq := rfl
  members_eq := rfl
  others_eq := ⟨h.packedSet_eq, rfl⟩
  handles := by
    change List.Forall₂ _ session.store.handles (session.store.handles.map Handle.pack)
    rw [List.forall₂_map_right_iff, List.forall₂_same]
    intro handle hmem
    have hfound := Store.handle?_of_mem hsound.consistent.nodup_serials hmem
    exact Handle.counterparts_pack (h.store.slots handle hmem)
      (hsound.consistent.isDeleted_eq_false hfound)
  equal?_eq := by
    intro a b
    unfold Store.equal?
    rw [store_pack, Store.handle?_pack, Store.handle?_pack]
    cases ha : session.store.handle? a with
    | none => rfl
    | some first =>
      cases hb : session.store.handle? b with
      | none => rfl
      | some second =>
        exact congrArg some (Handle.equal_pack (h.store.of_handle? ha) (h.store.of_handle? hb))

theorem Packable.clearEvents (h : session.Packable) : session.clearEvents.Packable :=
  ⟨⟨h.store.slots, h.store.fits⟩, h.packedSet_eq⟩

/-- What is shown of a session after a step is shown of its packed self. -/
theorem packs_completed {outcome outcome' : Outcome} (h : outcome.Packs outcome') :
    (session.completed outcome).Packs (session.pack.completed outcome') where
  outcome := h
  counts_eq := rfl
  events_eq := rfl
  calls_eq := by
    change (session.store.events.map Event.pack).filterMap _ = _
    rw [List.filterMap_map]
    exact List.filterMap_congr fun _ _ => Event.call?_pack
  trace_eq := by
    intro config
    change (session.store.events.map Event.pack).filterMap _ = _
    rw [List.filterMap_map]
    exact List.filterMap_congr fun _ _ => Event.line?_pack

/-- A turn that is translated makes a step that shows the same. -/
theorem step_of_packs (h : turn.Packs Answer.Packs packed session.clearEvents) :
    match session.step config turn with
    | .ok (shown, after) =>
      (∃ shown', session.pack.step config packed = .ok (shown', after.pack) ∧
        shown.Packs shown') ∧ after.Packable
    | .error abortion => session.pack.step config packed = .error abortion.pack := by
  have hstart : session.pack.clearEvents = session.clearEvents.pack := rfl
  unfold Turn.Packs at h
  unfold step
  rw [hstart]
  cases hturn : turn session.clearEvents with
  | ok answer after =>
    rw [hturn] at h
    obtain ⟨⟨answer', hpacked, hanswer⟩, hafter⟩ := h
    rw [hpacked]
    exact ⟨⟨_, rfl, packs_completed (.answered hanswer)⟩, hafter⟩
  | error stop after =>
    rw [hturn] at h
    rw [h.1]
    cases stop with
    | refused refusal => exact ⟨⟨_, rfl, packs_completed (.refused refusal)⟩, h.2⟩
    | fault fault =>
      cases fault with
      | panic cause => exact ⟨⟨_, rfl, packs_completed (.panicked cause)⟩, h.2⟩
      | violation violation => rfl
      | collapse => rfl

/-- Sound sessions go on in step with their packed selves. -/
theorem Holding.inStep (h : session.Sound config) (hpackable : session.Packable)
    (hcalls : ∀ command ∈ commands, command.isCall = false)
    (hraw : ∀ command ∈ commands, command.StaysRaw) :
    InStep config commands session session.pack := by
  induction commands generalizing session with
  | nil => exact Sound.counterparts_pack h hpackable
  | cons command rest ih =>
    have hcall := hcalls command List.mem_cons_self
    have hstep := @step_of_packs config session _ _ (command.packs_run h.clearEvents
      hpackable.clearEvents hcall (hraw command List.mem_cons_self))
    refine ⟨Sound.counterparts_pack h hpackable, ?_⟩
    cases hrun : session.step config (command.run config) with
    | error abortion =>
      rw [hrun] at hstep
      rw [hstep]
    | ok result =>
      obtain ⟨shown, after⟩ := result
      rw [hrun] at hstep
      obtain ⟨⟨shown', hpacked, hshown⟩, hafter⟩ := hstep
      rw [hpacked]
      refine ⟨hshown, ih (h.leads_of_step hcall hrun).holding hafter ?_ ?_⟩
      · exact fun other hother => hcalls other (List.mem_cons_of_mem _ hother)
      · exact fun other hother => hraw other (List.mem_cons_of_mem _ hother)

/-! ## Closing -/

/-- Packed members of a set are in the order of the raw ones. -/
theorem Packable.membersInOrder_pack (h : session.Packable) :
    session.pack.membersInOrder .packed = session.membersInOrder .raw := by
  have hserial : Handle.serial ∘ Handle.pack = Handle.serial := rfl
  unfold membersInOrder
  rw [members_pack, store_pack, filterMap_handle?_pack, Sorting.sort_map ?_, List.map_map, hserial]
  intro first hfirst second hsecond
  obtain ⟨a, -, ha⟩ := List.mem_filterMap.mp hfirst
  obtain ⟨b, -, hb⟩ := List.mem_filterMap.mp hsecond
  rw [decide_eq_decide]
  exact (h.store.of_handle? ha).address_pack_le (h.store.of_handle? hb)

/-- Packed handles are dropped in the order of the raw ones. -/
theorem Packable.keptHandles_pack (h : session.Packable) :
    session.pack.keptHandles = session.keptHandles := by
  have hnames : session.pack.namesInOrder = session.namesInOrder := rfl
  have hraw : session.pack.membersInOrder .raw = [] := rfl
  have hpacked : session.membersInOrder .packed = [] := by
    simp only [membersInOrder, members, h.packedSet_eq]
    rfl
  simp only [keptHandles, hnames, hraw, hpacked, h.membersInOrder_pack, List.append_nil]

/-- The handles that are kept in the end are dropped alike. -/
theorem Packable.packs_dropHandles (h : session.Packable) :
    (dropHandles config).Packs Answer.Packs (dropHandles config) session := by
  refine Turn.packs_bind_get ?_
  dsimp only
  rw [h.keptHandles_pack]
  refine Turn.packs_bind_modify rfl ?_
  refine Turn.packs_bind (Turn.packs_perform ⟨h.store, rfl⟩ (Handle.packs_releaseEach h.store))
    fun panics _ h => ?_
  exact Turn.packs_pure h (.same _)

/-- A turn on raw handles and the same turn on packed ones. -/
inductive Paired (config : Config) : Turn Answer → Turn Answer → Prop
  /-- A command that calls no referent directly and stays raw. -/
  | command (command : Command) (leaves : command.isCall = false) (raw : command.StaysRaw) :
      Paired config (command.run config) (command.pack.run config)
  /-- All handles that are kept under names and in sets are dropped. -/
  | dropHandles : Paired config (dropHandles config) (dropHandles config)

/-- Turns one after the other show the same on raw and on packed handles. -/
theorem Trail.steps_of_paired (hturns : List.Forall₂ (Paired config) turns turns')
    (htrail : Trail config past session) (h : session.Packable) :
    List.Forall₂ Step.Packs (session.steps config turns).1
        (session.pack.steps config turns').1 ∧
      (session.pack.steps config turns').2 = packResult (session.steps config turns).2 := by
  induction hturns generalizing past session with
  | nil => exact ⟨.nil, rfl⟩
  | @cons turn packed rest rest' hpaired _ ih =>
    have hstep : turn.Packs Answer.Packs packed session.clearEvents ∧ IsTurn config turn := by
      cases hpaired with
      | command command leaves raw =>
        exact ⟨command.packs_run htrail.sound.clearEvents h.clearEvents leaves raw,
          .command command leaves⟩
      | dropHandles => exact ⟨h.clearEvents.packs_dropHandles, .dropHandles⟩
    have hshows := @step_of_packs config session _ _ hstep.1
    cases hrun : session.step config turn with
    | error abortion =>
      rw [hrun] at hshows
      rw [steps_cons_of_error hrun, steps_cons_of_error hshows]
      exact ⟨.nil, rfl⟩
    | ok result =>
      obtain ⟨shown, after⟩ := result
      rw [hrun] at hshows
      obtain ⟨⟨shown', hpacked, hshown⟩, hafter⟩ := hshows
      obtain ⟨hlater, hresult⟩ := ih (htrail.step hstep.2 hrun) hafter
      rw [steps_cons_of_ok hrun, steps_cons_of_ok hpacked]
      exact ⟨.cons hshown hlater, hresult⟩

end Session

/-! ## Programs -/

namespace Program

open Session

/-- The same program on packed handles. -/
def pack (program : Program) : Program :=
  { program with commands := program.commands.map Command.pack }

/-- Whether all handles of a program are raw, and no address that it gives is too large to be
packed. -/
def StaysRaw (program : Program) : Prop :=
  ∀ command ∈ program.commands, command.StaysRaw

variable {program : Program}

/-- The turns of a program on raw handles and on packed ones belong together. -/
theorem paired_turns (hcalls : program.LeavesCalls) (hraw : program.StaysRaw) :
    List.Forall₂ (Paired program.config) program.turns program.pack.turns := by
  have hcommands : List.Forall₂ (Paired program.config)
      (program.commands.map (Command.run program.config))
      (program.pack.commands.map (Command.run program.config)) := by
    simp only [pack, List.map_map, List.forall₂_map_left_iff, List.forall₂_map_right_iff,
      List.forall₂_same]
    exact fun command hmem => .command command (hcalls command hmem) (hraw command hmem)
  have hbody : program.pack.body.2 = packResult program.body.2 :=
    (Trail.start.steps_of_paired hcommands ⟨⟨nofun, nofun⟩, rfl⟩).2
  unfold turns
  rw [hbody]
  refine List.rel_append hcommands ?_
  cases program.body.2 with
  | error abortion => exact .nil
  | ok session =>
    refine .cons (.command (.look .dump) rfl trivial) (.cons .dropHandles ?_)
    simp only [List.forall₂_map_left_iff]
    change List.Forall₂ _ _ (session.store.referents.reverse.map _)
    rw [List.forall₂_map_right_iff, List.forall₂_same]
    exact fun referent _ => .command (.onReferent (.destroy referent.name)) rfl trivial

/-- A program that leaves calls to handles and stays raw goes in step with the same program on
packed handles, and both show the same until they have closed. -/
theorem packed_in_lockstep (hcalls : program.LeavesCalls) (hraw : program.StaysRaw) :
    Session.InStep program.config program.commands {} {} ∧
      program.run.Packs program.pack.run := by
  have hempty : ({} : Session).Packable := ⟨⟨nofun, nofun⟩, rfl⟩
  refine ⟨sound_empty.inStep hempty hcalls hraw, ?_⟩
  obtain ⟨hsteps, hresult⟩ := Trail.start.steps_of_paired (paired_turns hcalls hraw) hempty
  obtain ⟨hshown, habortion⟩ := program.steps_turns
  obtain ⟨hshown', habortion'⟩ := program.pack.steps_turns
  have hconfig : program.pack.config = program.config := rfl
  have hstart : ({} : Session).pack = {} := rfl
  rw [hconfig] at hshown' habortion'
  rw [hstart] at hsteps hresult
  refine ⟨?_, ?_⟩
  · rwa [← hshown, ← hshown']
  · refine Option.ext fun abortion => ?_
    rw [habortion' abortion, hresult, Option.map_eq_some_iff]
    simp only [habortion]
    cases (Session.steps program.config {} program.turns).2 with
    | ok session => simp [packResult]
    | error cause => simp [packResult]

/-- A program that marks a pointer as deleted, exchanges it with a copy, looks at its address, fails
to make a reference of it, puts it in a set and makes a pointer of a null address. -/
def encodingsExample : Program where
  config := ⟨⟨true, true⟩, .recorder, .trace⟩
  commands :=
    [.onReferent (.create "a" 1 none), .onHandle (.hold .pointer "p" .raw "a"),
      .onHandle (.copy "q" "p"), .change (.markDeleted "p"), .change (.swap "p" "q"),
      .look (.compare "p" "q" false), .look (.address "q"), .onHandle (.toReference "r" "q"),
      .onSet (.insert "q"), .onHandle (.holdAddress .pointer "n" .raw (.address 0)),
      .look (.address "p")]

/-- That program shows the same on packed handles but for the mark of the deleted pointer. -/
theorem packed_encodingsExample :
    encodingsExample.body.1.map Step.outcome =
        [.answered .nothing, .answered .nothing, .answered .nothing, .answered .nothing,
          .answered .nothing, .answered (.flag false), .answered (.address 0xffffffffffffffff),
          .panicked .releasedNull, .answered (.flag true), .answered .nothing,
          .answered (.address 0x100000000)] ∧
      encodingsExample.pack.body.1.map Step.outcome =
        [.answered .nothing, .answered .nothing, .answered .nothing, .answered .nothing,
          .answered .nothing, .answered (.flag false), .answered (.address 0xffffffffffff),
          .panicked .releasedNull, .answered (.flag true), .answered .nothing,
          .answered (.address 0x100000000)] ∧
      Session.InStep encodingsExample.config encodingsExample.commands {} {} ∧
      encodingsExample.run.Packs encodingsExample.pack.run := by
  have hcalls : encodingsExample.LeavesCalls := by
    simp [LeavesCalls, encodingsExample, Command.isCall]
  have hfits : SixBytes.Fits 0 := by decide
  have hraw : encodingsExample.StaysRaw := by
    simp [StaysRaw, encodingsExample, Command.StaysRaw, HandleCommand.StaysRaw,
      ChangeCommand.StaysRaw, LookCommand.StaysRaw, Place.Fits, hfits]
  exact ⟨by decide +kernel, by decide +kernel, packed_in_lockstep hcalls hraw⟩

end Program

end CountedHandles
